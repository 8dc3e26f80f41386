/-!
# Scripts

Programs that act on the world only by asking questions: each question has its own type of reply,
and what the program does next depends on the replies alone. A script is run by whoever answers,
and can be stopped between any two questions.
-/
namespace VolumeDrain

/-- A program that ends with a value or asks a question and goes on with the reply. -/
inductive Script {Question : Type} (Reply : Question → Type) (α : Type) where
  | done (value : α)
  | ask (question : Question) (resume : Reply question → Script Reply α)

namespace Script

variable {Question : Type} {Reply : Question → Type} {α β σ : Type}

/-- One script after another. -/
def bind (s : Script Reply α) (f : α → Script Reply β) : Script Reply β :=
  match s with
  | done a => f a
  | ask q resume => ask q fun r => (resume r).bind f

instance : Monad (Script Reply) where
  pure := done
  bind := bind

@[simp] theorem pure_eq_done (a : α) : (pure a : Script Reply α) = done a := rfl

@[simp] theorem done_bind (a : α) (f : α → Script Reply β) : done a >>= f = f a := rfl

@[simp] theorem ask_bind (q : Question) (resume : Reply q → Script Reply α)
    (f : α → Script Reply β) : ask q resume >>= f = ask q fun r => resume r >>= f := rfl

/-- Ending with the value one has changes nothing. -/
theorem bind_done (s : Script Reply α) : s >>= done = s := by
  induction s with
  | done a => rfl
  | ask q resume ih => exact congrArg (ask q) (funext ih)

/-- Of three scripts in a row, it does not matter which two are joined first. -/
theorem bind_assoc {γ : Type} (s : Script Reply α) (f : α → Script Reply β)
    (g : β → Script Reply γ) : s >>= f >>= g = s >>= fun a => f a >>= g := by
  induction s with
  | done a => rfl
  | ask q resume ih => exact congrArg (ask q) (funext ih)

instance : LawfulMonad (Script Reply) :=
  LawfulMonad.mk' (Script Reply) bind_done (fun _ _ => rfl) bind_assoc

/-- The script that asks one question and ends with the reply. -/
def question (q : Question) : Script Reply (Reply q) := ask q done

/-- Runs a script against someone who answers from a state of their own. -/
def run (answer : (q : Question) → σ → Reply q × σ) : Script Reply α → σ → α × σ
  | done a, state => (a, state)
  | ask q resume, state =>
    let reply := answer q state
    run answer (resume reply.1) reply.2

@[simp] theorem run_done (answer : (q : Question) → σ → Reply q × σ) (a : α) (state : σ) :
    run answer (done a) state = (a, state) := rfl

@[simp] theorem run_ask (answer : (q : Question) → σ → Reply q × σ) (q : Question)
    (resume : Reply q → Script Reply α) (state : σ) :
    run answer (ask q resume) state =
      run answer (resume (answer q state).1) (answer q state).2 := rfl

/-- One script after another runs from where the first one ended. -/
theorem run_bind (answer : (q : Question) → σ → Reply q × σ) (s : Script Reply α)
    (f : α → Script Reply β) (state : σ) :
    run answer (s >>= f) state = run answer (f (run answer s state).1) (run answer s state).2 := by
  induction s generalizing state with
  | done a => rfl
  | ask q resume ih => exact ih (answer q state).1 (answer q state).2

/-- The script in which each question is asked by a script of other questions. -/
def expand {Question' : Type} {Reply' : Question' → Type}
    (ask' : (q : Question) → Script Reply' (Reply q)) : Script Reply α → Script Reply' α
  | done a => done a
  | ask q resume => (ask' q).bind fun r => expand ask' (resume r)

end Script

end VolumeDrain
