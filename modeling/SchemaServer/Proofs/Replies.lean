import SchemaServer.Pipe

/-! # What a call takes from the replies

A call that waits for the reply to request `id` skips the replies to earlier requests and takes one
line more, if there is one.  `await_spec` says so in terms of the lines alone, without the loop:
what is skipped is `takeWhile`, what is taken and what is left are the head and the tail of
`dropWhile`, and `Ends` lists the exits of the wait. -/

namespace SchemaServer.Pipe

open Analyzer (Outcome)

/-- The reply in a line, if it holds one. -/
def reply? (line : List UInt8) : Option Reply :=
  (Utf8.decode line).toOption.bind fun content => (Reply.shape.parse content).toOption

/-- Whether a line is a reply to a request before `id`. -/
def isStale (id : UInt64) (line : List UInt8) : Bool :=
  (reply? line).any fun reply => reply.id?.any (· < id)

/-- How a call that waits for the reply to request `id` ends, by the line it takes: its outcome, and
    the reason if it breaks the pipe. -/
inductive Ends (operation : Operation) (id : UInt64) (closed : Bool) :
    Option (List UInt8) → Option (Outcome Json) → Option String → Prop where
  | waits (more : closed = false) : Ends operation id closed none none none
  | exited (shut : closed = true) : Ends operation id closed none
      (some (.error (.failed operation endReason))) (some endReason)
  | notText {line : List UInt8} {fault : Utf8.Fault} (bytes : Utf8.decode line = .error fault) :
      Ends operation id closed (some line) (some (.error (.failed operation fault.message))) none
  | notReply {line : List UInt8} {content : String} {fault : Json.Fault}
      (characters : Utf8.decode line = .ok content)
      (unreadable : Reply.shape.parse content = .error fault) :
      Ends operation id closed (some line) (some (.error (.malformed operation fault))) none
  | ahead {line : List UInt8} {reply : Reply} {other : UInt64} (read : reply? line = some reply)
      (named : reply.id? = some other) (later : id < other) : Ends operation id closed (some line)
        (some (.error (.failed operation (aheadReason id other)))) (some (aheadReason id other))
  | answered {line : List UInt8} {reply : Reply} (read : reply? line = some reply)
      (own : reply.id? = none ∨ reply.id? = some id) :
      Ends operation id closed (some line) (some (reply.outcome operation)) none

variable {operation : Operation} {id : UInt64} {closed : Bool} {line : List UInt8}

/-! ## One line -/

theorem reply?_eq_some_iff {reply : Reply} : reply? line = some reply ↔
    ∃ content, Utf8.decode line = .ok content ∧ Reply.shape.parse content = .ok reply := by
  unfold reply?
  cases characters : Utf8.decode line with
  | error fault => simp [Except.toOption]
  | ok content =>
    cases parsed : Reply.shape.parse content with
    | error fault => simp [Except.toOption, parsed]
    | ok found => simp [Except.toOption, parsed]

/-- A line is no text, or a text that is no reply, or a reply. -/
theorem line_cases (line : List UInt8) :
    (∃ fault, Utf8.decode line = .error fault) ∨
    (∃ content fault, Utf8.decode line = .ok content ∧ Reply.shape.parse content = .error fault) ∨
    ∃ reply, reply? line = some reply := by
  cases characters : Utf8.decode line with
  | error fault => exact .inl ⟨fault, rfl⟩
  | ok content =>
    cases parsed : Reply.shape.parse content with
    | error fault => exact .inr (.inl ⟨content, fault, rfl, parsed⟩)
    | ok reply => exact .inr (.inr ⟨reply, reply?_eq_some_iff.2 ⟨content, characters, parsed⟩⟩)

theorem readReply_of_reply? {reply : Reply} (read : reply? line = some reply) :
    readReply operation id line =
      match reply.id? with
      | none => .reply reply
      | some other =>
        if other < id then .stale else if id < other then .ahead other else .reply reply := by
  obtain ⟨content, characters, parsed⟩ := reply?_eq_some_iff.1 read
  cases named : reply.id? with
  | none => simp only [readReply, characters, parsed, named]
  | some other => simp only [readReply, characters, parsed, named]

theorem isStale_iff : isStale id line = true ↔
    ∃ reply other, reply? line = some reply ∧ reply.id? = some other ∧ other < id := by
  simp only [isStale, Option.any_eq_true, decide_eq_true_eq]
  constructor
  · rintro ⟨reply, read, other, named, earlier⟩
    exact ⟨reply, other, read, named, earlier⟩
  · rintro ⟨reply, other, read, named, earlier⟩
    exact ⟨reply, read, other, named, earlier⟩

theorem readReply_of_isStale (stale : isStale id line = true) :
    readReply operation id line = .stale := by
  obtain ⟨reply, other, read, named, earlier⟩ := isStale_iff.1 stale
  simp only [readReply_of_reply? read, named, if_pos earlier]

/-- The outcome of the call, once it is decided. -/
def Awaited.outcome? : Awaited → Option (Outcome Json)
  | .decided outcome _ => some outcome
  | .pending => none

/-- Why the pipe broke, if it did. -/
def Awaited.reason? : Awaited → Option String
  | .decided _ reason? => reason?
  | .pending => none

/-- A line that is not skipped ends the wait, and the lines after it stay. -/
theorem await_cons_of_not_isStale {lines : List (List UInt8)} (taken : isStale id line = false) :
    (await operation id closed (line :: lines)).2 = lines ∧
      Ends operation id closed (some line)
        (await operation id closed (line :: lines)).1.outcome?
        (await operation id closed (line :: lines)).1.reason? := by
  rw [await]
  rcases line_cases line with ⟨fault, bytes⟩ | ⟨content, fault, characters, parsed⟩ | ⟨reply, read⟩
  · have reading : readReply operation id line =
        .unreadable (.failed operation fault.message) := by
      simp only [readReply, bytes]
    rw [reading]
    exact ⟨rfl, .notText bytes⟩
  · have reading : readReply operation id line = .unreadable (.malformed operation fault) := by
      simp only [readReply, characters, parsed]
    rw [reading]
    exact ⟨rfl, .notReply characters parsed⟩
  · rw [readReply_of_reply? read]
    cases named : reply.id? with
    | none => exact ⟨rfl, .answered read (.inl named)⟩
    | some other =>
      have notEarlier : ¬ other < id := by
        intro earlier
        rw [isStale_iff.2 ⟨reply, other, read, named, earlier⟩] at taken
        cases taken
      dsimp only
      rw [if_neg notEarlier]
      by_cases later : id < other
      · rw [if_pos later]
        exact ⟨rfl, .ahead read named later⟩
      · rw [if_neg later]
        -- Neither an earlier nor a later number is the own one.
        have same : other = id :=
          UInt64.le_antisymm (UInt64.not_lt.1 later) (UInt64.not_lt.1 notEarlier)
        exact ⟨rfl, .answered read (.inr (same ▸ named))⟩

/-! ## Whose reply it was -/

section
variable {taken : Option (List UInt8)} {outcome : Option (Outcome Json)} {reason? : Option String}

/-- A result comes from the line that is taken, and that line names this request or none. -/
theorem Ends.of_ok {value : Json} (ends : Ends operation id closed taken outcome reason?)
    (succeeded : outcome = some (.ok value)) :
    ∃ line reply, taken = some line ∧ reply? line = some reply ∧
      (reply.id? = none ∨ reply.id? = some id) ∧ reply.outcome operation = .ok value := by
  cases ends with
  | answered read own => exact ⟨_, _, rfl, read, own, Option.some.inj succeeded⟩
  | waits more => cases succeeded
  | exited shut => cases succeeded
  | notText bytes => cases succeeded
  | notReply characters unreadable => cases succeeded
  | ahead read named later => cases succeeded

/-- A call that takes a line ends by what this line is: no text, no reply, or a reply.  An own or a
    missing number in it gives what the reply says, and a later one breaks the pipe. -/
theorem Ends.of_some (ends : Ends operation id closed taken outcome reason?)
    (next : taken = some line) :
    (∃ fault, Utf8.decode line = .error fault ∧
      outcome = some (.error (.failed operation fault.message)) ∧ reason? = none) ∨
    (∃ content fault, Utf8.decode line = .ok content ∧ Reply.shape.parse content = .error fault ∧
      outcome = some (.error (.malformed operation fault)) ∧ reason? = none) ∨
    (∃ reply, reply? line = some reply ∧ (reply.id? = none ∨ reply.id? = some id) ∧
      outcome = some (reply.outcome operation) ∧ reason? = none) ∨
    ∃ reply other, reply? line = some reply ∧ reply.id? = some other ∧ id < other ∧
      outcome = some (.error (.failed operation (aheadReason id other))) := by
  cases ends with
  | waits more => cases next
  | exited shut => cases next
  | notText bytes =>
    cases next
    exact .inl ⟨_, bytes, rfl, rfl⟩
  | notReply characters unreadable =>
    cases next
    exact .inr (.inl ⟨_, _, characters, unreadable, rfl, rfl⟩)
  | answered read own =>
    cases next
    exact .inr (.inr (.inl ⟨_, read, own, rfl, rfl⟩))
  | ahead read named later =>
    cases next
    exact .inr (.inr (.inr ⟨_, _, read, named, later, rfl⟩))

/-- A reply that names another request gives its number away, but neither result nor failure. -/
theorem Ends.of_foreign {reply : Reply} {other : UInt64}
    (ends : Ends operation id closed taken outcome reason?) (next : taken = some line)
    (read : reply? line = some reply) (named : reply.id? = some other) (foreign : other ≠ id) :
    outcome = some (.error (.failed operation (aheadReason id other))) := by
  obtain ⟨content, characters, parsed⟩ := reply?_eq_some_iff.1 read
  rcases ends.of_some next with ⟨_, bytes, _⟩ | ⟨_, _, decoded, unreadable, _⟩ |
    ⟨_, again, own, _⟩ | ⟨_, _, again, numbered, _, failed⟩
  · cases characters.symm.trans bytes
  · cases characters.symm.trans decoded
    cases parsed.symm.trans unreadable
  · cases read.symm.trans again
    simp [named, foreign] at own
  · cases read.symm.trans again
    cases named.symm.trans numbered
    exact failed

end

/-! ## The wait -/

/-- The wait skips the longest run of stale lines, takes the next line and leaves the rest. -/
theorem await_spec (operation : Operation) (id : UInt64) (closed : Bool)
    (lines : List (List UInt8)) :
    (await operation id closed lines).2 = (lines.dropWhile (isStale id)).tail ∧
      Ends operation id closed (lines.dropWhile (isStale id)).head?
        (await operation id closed lines).1.outcome?
        (await operation id closed lines).1.reason? := by
  -- The loop goes on for stale lines only; the first other line is `await_cons_of_not_isStale`.
  induction lines with
  | nil =>
    cases closed with
    | true => exact ⟨rfl, .exited rfl⟩
    | false => exact ⟨rfl, .waits rfl⟩
  | cons line lines ih =>
    cases stale : isStale id line with
    | true =>
      rw [List.dropWhile_cons_of_pos stale]
      have skipped : await operation id closed (line :: lines) = await operation id closed lines := by
        rw [await, readReply_of_isStale stale]
      rw [skipped]
      exact ih
    | false =>
      rw [List.dropWhile_cons_of_neg (by simp [stale])]
      exact await_cons_of_not_isStale stale

end SchemaServer.Pipe
