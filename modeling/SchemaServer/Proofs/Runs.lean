import SchemaServer.Program

/-! # Runs of programs

A program leaves open how its questions are answered.  A run fixes the answers, so it is a path
through the program:

* `Program.Leads p trace q`: after the exchanges of `trace` the program `p` has become `q`.  The run
  need not be over; `q` may wait for an answer that never comes.
* `Program.Runs p trace value`: the exchanges of `trace` take `p` to its end.
* `Program.Always asks post p`: whatever the answers, `p` asks only questions that satisfy `asks`,
  and every value it ends with satisfies `post`.

`Always` is proved along the program text (`always_bind`) and carried over to runs once and for all
(`Always.of_leads`).  Nothing is assumed of the answers, so a run covers every analyzer and every
editor, failing ones included. -/

namespace SchemaServer

/-- A question with the answer it got. -/
structure Exchange where
  question : Question
  answer : question.Answer

namespace Program

variable {α β : Type}

/-! ## Paths -/

/-- The program on the left becomes the one on the right by these exchanges. -/
inductive Leads : Program α → List Exchange → Program α → Prop where
  | rest (p : Program α) : Leads p [] p
  | step {question : Question} {next : question.Answer → Program α} (answer : question.Answer)
      {trace : List Exchange} {q : Program α} (tail : Leads (next answer) trace q) :
      Leads (.ask question next) (⟨question, answer⟩ :: trace) q

/-- The program ends with this value after these exchanges. -/
def Runs (p : Program α) (trace : List Exchange) (value : α) : Prop := Leads p trace (.done value)

theorem leads_done_iff {value : α} {trace : List Exchange} {q : Program α} :
    Leads (.done value) trace q ↔ trace = [] ∧ q = .done value := by
  constructor
  · intro path
    cases path
    exact ⟨rfl, rfl⟩
  · rintro ⟨rfl, rfl⟩
    exact .rest _

/-- A value is reached by asking nothing. -/
@[simp] theorem runs_done_iff {value result : α} {trace : List Exchange} :
    Runs (.done value) trace result ↔ trace = [] ∧ result = value := by
  rw [Runs, leads_done_iff, Program.done.injEq]

theorem runs_ask_iff {question : Question} {next : question.Answer → Program α}
    {trace : List Exchange} {value : α} :
    Runs (.ask question next) trace value ↔
      ∃ answer rest, trace = ⟨question, answer⟩ :: rest ∧ Runs (next answer) rest value := by
  constructor
  · intro path
    cases path with
    | step answer tail => exact ⟨answer, _, rfl, tail⟩
  · rintro ⟨answer, rest, rfl, tail⟩
    exact .step answer tail

/-- A run of two programs in turn is a run of the first and then one of the second. -/
theorem runs_bind_iff {p : Program α} {f : α → Program β} {trace : List Exchange} {value : β} :
    Runs (p >>= f) trace value ↔
      ∃ before after middle, trace = before ++ after ∧ Runs p before middle ∧
        Runs (f middle) after value := by
  -- The questions of `p >>= f` are those of `p` until `p` is done, so the induction is on `p`.
  induction p generalizing trace with
  | done middle =>
    rw [done_bind]
    constructor
    · intro run
      exact ⟨[], trace, middle, rfl, .rest _, run⟩
    · rintro ⟨before, after, reached, rfl, first, second⟩
      obtain ⟨rfl, rfl⟩ := runs_done_iff.1 first
      exact second
  | ask question next ih =>
    rw [ask_bind, runs_ask_iff]
    constructor
    · rintro ⟨answer, rest, rfl, tail⟩
      obtain ⟨before, after, middle, rfl, first, second⟩ := (ih answer).1 tail
      exact ⟨⟨question, answer⟩ :: before, after, middle, rfl, .step answer first, second⟩
    · rintro ⟨before, after, middle, rfl, first, second⟩
      obtain ⟨answer, rest, rfl, tail⟩ := runs_ask_iff.1 first
      exact ⟨answer, rest ++ after, rfl, (ih answer).2 ⟨rest, after, middle, rfl, tail, second⟩⟩

/-- The exchanges of a program with a machine that has a state. -/
def transcript {σ : Type} (answer : (question : Question) → StateM σ question.Answer) :
    Program α → σ → List Exchange
  | .done _, _ => []
  | .ask question next, state =>
    let (reply, state) := answer question state
    ⟨question, reply⟩ :: transcript answer (next reply) state

/-- However a machine with a state answers the questions of a program, the run is one of its
    paths. -/
theorem runs_transcript {σ : Type} (answer : (question : Question) → StateM σ question.Answer)
    (p : Program α) (state : σ) : Runs p (p.transcript answer state) (p.run answer state).1 := by
  induction p generalizing state with
  | done value => exact .rest _
  | ask question next ih => exact .step _ (ih _ _)

theorem exists_runs_run {σ : Type} (answer : (question : Question) → StateM σ question.Answer)
    (p : Program α) (state : σ) : ∃ trace, Runs p trace (p.run answer state).1 :=
  ⟨_, runs_transcript answer p state⟩

/-- The analyzer is down and the editor refuses what it is asked. -/
def outage : (question : Question) → StateM Unit question.Answer
  | .analyzer call => pure (.error (.failed call.operation "down"))
  | .client .registerConfiguration => pure false
  | .client (.fetchSettings _) => pure .failed
  | .client (.publish ..) | .client .externalTypesChanged | .client (.log ..) => pure ()

/-! ## What holds on every path -/

/-- Whatever the answers, every question satisfies `asks` and every result satisfies `post`. -/
def Always (asks : Question → Prop) (post : α → Prop) : Program α → Prop
  | .done value => post value
  | .ask question next => asks question ∧ ∀ answer, (next answer).Always asks post

variable {asks : Question → Prop} {post : α → Prop}

/-- What the first of two programs ends with is what the second starts from. -/
theorem always_bind {p : Program α} {f : α → Program β} {middle : α → Prop} {post : β → Prop}
    (first : p.Always asks middle) (second : ∀ value, middle value → (f value).Always asks post) :
    (p >>= f).Always asks post := by
  induction p with
  | done value => exact second value first
  | ask question next ih => exact ⟨first.1, fun answer => ih answer (first.2 answer)⟩

/-- What holds on every path still holds on every path from a program that has been reached. -/
theorem Always.of_leads {p q : Program α} {trace : List Exchange} (always : p.Always asks post)
    (path : Leads p trace q) : (∀ exchange ∈ trace, asks exchange.question) ∧ q.Always asks post := by
  induction path with
  | rest p => exact ⟨by simp, always⟩
  | step answer tail ih =>
    obtain ⟨asked, after⟩ := ih (always.2 answer)
    exact ⟨List.forall_mem_cons.2 ⟨always.1, asked⟩, after⟩

theorem Always.of_runs {p : Program α} {trace : List Exchange} {value : α}
    (always : p.Always asks post) (run : Runs p trace value) : post value :=
  (always.of_leads run).2

end Program

end SchemaServer
