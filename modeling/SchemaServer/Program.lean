import SchemaServer.Analyzer
import SchemaServer.Client

/-! # Programs

What a session does on an event is a `Program`: either it is done, or it asks the analyzer or the
editor something and goes on with the answer.  A program fixes what is asked and in which order, and
leaves open how the answers come about; `Program.run` supplies them in any monad. -/

namespace SchemaServer

inductive Question where
  | analyzer (call : Analyzer.Call)
  | client (call : Client.Call)

abbrev Question.Answer : Question → Type
  | .analyzer call => Analyzer.Outcome call.Answer
  | .client call => call.Answer

/-- A computation that may ask questions. -/
inductive Program (α : Type) where
  | done (value : α)
  | ask (question : Question) (next : question.Answer → Program α)

namespace Program

variable {α β : Type}

def bind : Program α → (α → Program β) → Program β
  | .done value, f => f value
  | .ask question next, f => .ask question fun answer => (next answer).bind f

instance : Monad Program where
  pure := .done
  bind := bind

def callAnalyzer (call : Analyzer.Call) : Program (Analyzer.Outcome call.Answer) :=
  .ask (.analyzer call) .done

def callClient (call : Client.Call) : Program call.Answer := .ask (.client call) .done

def run {m : Type → Type} [Monad m] (answer : (question : Question) → m question.Answer) :
    Program α → m α
  | .done value => pure value
  | .ask question next => do run answer (next (← answer question))

@[simp] theorem pure_eq_done (value : α) : (pure value : Program α) = .done value := rfl

@[simp] theorem done_bind (value : α) (f : α → Program β) : (Program.done value >>= f) = f value :=
  rfl

@[simp] theorem ask_bind (question : Question) (next : question.Answer → Program α)
    (f : α → Program β) :
    (Program.ask question next >>= f) = .ask question fun answer => next answer >>= f := rfl

end Program

end SchemaServer
