/-!
# Programs that ask questions

A program over an interface either is done or asks a question and goes on with the answer.  What
answers is left open: `run` answers from a state that each question may change, and `interpret`
answers each question by a program over another interface.
-/

namespace StartOnReady.Effects

/-- The questions that may be asked, and the type of the answer to each. -/
structure Interface where
  Question : Type
  Answer : Question → Type

/-- A program with results in `α`. -/
inductive Program (I : Interface) (α : Type) where
  | done (result : α)
  | ask (question : I.Question) (next : I.Answer question → Program I α)

namespace Program

variable {I J : Interface} {α β σ : Type}

/-- Goes on with a further program at the end. -/
def bind : Program I α → (α → Program I β) → Program I β
  | done a, f => f a
  | ask q next, f => ask q fun answer => (next answer).bind f

instance : Monad (Program I) where
  pure := done
  bind := bind

/-- Asks one question for its answer. -/
def question (q : I.Question) : Program I (I.Answer q) := ask q done

/-- Runs a program with answers from a state. -/
def run (answer : (q : I.Question) → σ → I.Answer q × σ) : Program I α → σ → α × σ
  | done a, s => (a, s)
  | ask q next, s =>
    let (reply, s) := answer q s
    (next reply).run answer s

/-- Answers every question by a program over another interface. -/
def interpret (answer : (q : I.Question) → Program J (I.Answer q)) : Program I α → Program J α
  | done a => done a
  | ask q next => (answer q).bind fun reply => (next reply).interpret answer

theorem run_bind (answer : (q : I.Question) → σ → I.Answer q × σ) (p : Program I α)
    (f : α → Program I β) (s : σ) :
    (p.bind f).run answer s = (f (p.run answer s).1).run answer (p.run answer s).2 := by
  induction p generalizing s with
  | done a => rfl
  | ask q next ih => exact ih _ _

theorem bind_assoc {γ : Type} (p : Program I α) (f : α → Program I β) (g : β → Program I γ) :
    (p.bind f).bind g = p.bind fun a => (f a).bind g := by
  induction p with
  | done a => rfl
  | ask q next ih =>
    simp only [bind]
    exact congrArg (ask q) (funext ih)

theorem interpret_bind (answer : (q : I.Question) → Program J (I.Answer q)) (p : Program I α)
    (f : α → Program I β) :
    (p.bind f).interpret answer = (p.interpret answer).bind fun a => (f a).interpret answer := by
  induction p with
  | done a => rfl
  | ask q next ih =>
    simp only [bind, interpret, bind_assoc]
    exact congrArg (answer q).bind (funext ih)

theorem run_interpret (inner : (q : I.Question) → Program J (I.Answer q))
    (outer : (q : J.Question) → σ → J.Answer q × σ) (p : Program I α) (s : σ) :
    (p.interpret inner).run outer s = p.run (fun q => (inner q).run outer) s := by
  induction p generalizing s with
  | done a => rfl
  | ask q next ih =>
    rw [interpret, run_bind, ih]
    rfl

end Program

end StartOnReady.Effects
