import SchemaServer.Proofs.History

/-! # Runs event by event

A run over many events, finished or not, is a list of moments: an event and what has been asked while
it was handled.  The last event may still be in the middle, with a question that nobody answers.

* `Unfolds s log`: the moments of `log` can follow one another from the session `s` on.
* `unfolds_of_leads`: every run, wherever it stands, unfolds into moments.
* `Unfolds.moment`: each moment is a path through the handling of its event, from a session that
  follows the history of the events before it. -/

namespace SchemaServer

namespace Program

variable {α β : Type}

def pending : Program α → List Question
  | .done _ => []
  | .ask question _ => [question]

/-- What has been asked on the way to a program: what was answered, and what still waits. -/
def askedUpTo (trace : List Exchange) (rest : Program α) : List Question :=
  trace.map Exchange.question ++ rest.pending

theorem Always.of_asked {asks : Question → Prop} {post : α → Prop} {p rest : Program α}
    {trace : List Exchange} (always : p.Always asks post) (path : Leads p trace rest) :
    ∀ question ∈ askedUpTo trace rest, asks question := by
  obtain ⟨answered, after⟩ := always.of_leads path
  intro question member
  rcases List.mem_append.1 member with before | waiting
  · obtain ⟨exchange, found, rfl⟩ := List.mem_map.1 before
    exact answered exchange found
  · cases rest with
    | done value => cases waiting
    | ask asking next =>
      obtain rfl := List.mem_singleton.1 waiting
      exact after.1

/-- On the way through two programs in turn, the first one still asks or it has ended. -/
theorem leads_bind_cases {p : Program α} {f : α → Program β} {trace : List Exchange}
    {rest : Program β} (path : Leads (p >>= f) trace rest) :
    (∃ (question : Question) (next : question.Answer → Program α),
      Leads p trace (.ask question next) ∧ rest = .ask question fun answer => next answer >>= f) ∨
    ∃ before after middle, trace = before ++ after ∧ Runs p before middle ∧
      Leads (f middle) after rest := by
  induction p generalizing trace with
  | done middle => exact .inr ⟨[], trace, middle, rfl, .rest _, path⟩
  | ask question next ih =>
    cases path with
    | rest => exact .inl ⟨question, next, .rest _, rfl⟩
    | step answer tail =>
      rcases ih answer tail with ⟨asking, further, reached, rfl⟩ |
        ⟨before, after, middle, rfl, first, second⟩
      · exact .inl ⟨asking, further, .step answer reached, rfl⟩
      · exact .inr ⟨_ :: before, after, middle, rfl, .step answer first, second⟩

end Program

namespace Session

open Program (askedUpTo)

structure Moment where
  event : Event
  asked : List Question

inductive Unfolds : Session → List Moment → Prop where
  | start (s : Session) : Unfolds s []
  | during {s : Session} {event : Event} {exchanges : List Exchange}
      {rest : Program (event.Reply × Session)} (path : (s.handle event).Leads exchanges rest) :
      Unfolds s [⟨event, askedUpTo exchanges rest⟩]
  | after {s s' : Session} {event : Event} {exchanges : List Exchange} {reply : event.Reply}
      {log : List Moment} (run : (s.handle event).Runs exchanges (reply, s'))
      (tail : Unfolds s' log) : Unfolds s (⟨event, exchanges.map Exchange.question⟩ :: log)

theorem unfolds_of_leads {events : List Event} {s : Session} {trace : List Exchange}
    {rest : Program Session} (path : (handleAll events s).Leads trace rest) :
    ∃ log, Unfolds s log ∧ log.map Moment.event <+: events ∧
      log.flatMap Moment.asked = askedUpTo trace rest ∧
      ∀ s', rest = .done s' → log.map Moment.event = events := by
  induction events generalizing s trace with
  | nil =>
    obtain ⟨rfl, rfl⟩ := Program.leads_done_iff.1 path
    exact ⟨[], .start s, List.nil_prefix, rfl, fun _ _ => rfl⟩
  | cons event events ih =>
    rcases Program.leads_bind_cases path with ⟨question, next, reached, rfl⟩ |
      ⟨before, after, ⟨reply, middle⟩, rfl, first, second⟩
    · refine ⟨[⟨event, _⟩], .during reached, ?_, ?_, nofun⟩
      · exact List.cons_prefix_cons.2 ⟨rfl, List.nil_prefix⟩
      · rw [List.flatMap_singleton]
        rfl
    · obtain ⟨log, unfolds, upTo, asked, complete⟩ := ih second
      refine ⟨⟨event, before.map Exchange.question⟩ :: log, .after first unfolds, ?_, ?_, ?_⟩
      · exact List.cons_prefix_cons.2 ⟨rfl, upTo⟩
      · rw [List.flatMap_cons, asked, askedUpTo, askedUpTo, List.map_append, List.append_assoc]
      · intro s' finished
        rw [List.map_cons, complete s' finished]

theorem Unfolds.moment {s : Session} {log : List Moment} {before : List Event} {i : Nat}
    {moment : Moment} (unfolds : Unfolds s log)
    (follows : s.store.documents = documentsAfter before) (found : log[i]? = some moment) :
    ∃ (s' : Session) (exchanges : List Exchange) (rest : Program (moment.event.Reply × Session)),
      s'.store.documents = documentsAfter (before ++ (log.take i).map Moment.event) ∧
      (s'.handle moment.event).Leads exchanges rest ∧ moment.asked = askedUpTo exchanges rest := by
  induction unfolds generalizing before i with
  | start s => cases found
  | during path =>
    cases i with
    | zero =>
      cases found
      exact ⟨_, _, _, by simpa using follows, path, rfl⟩
    | succ i => cases found
  | after run tail ih =>
    cases i with
    | zero =>
      cases found
      refine ⟨_, _, _, by simpa using follows, run, ?_⟩
      simp [askedUpTo, Program.pending]
    | succ i =>
      have handled := ((handle_always _ _).of_runs run).trans (documents_updated follows _)
      obtain ⟨s', exchanges, rest, later, path, asked⟩ := ih handled found
      refine ⟨s', exchanges, rest, ?_, path, asked⟩
      rw [later, List.take_succ_cons, List.map_cons, List.append_assoc, List.singleton_append]

end Session

end SchemaServer
