import StartOnReady.Effects.Program

/-!
# What a program ensures

`Program.Ensures allowed post p` says that `p` ends with a result in `post` whenever every answer
that it gets is an allowed one, whoever gives the answers.  The rules follow the ways in which
programs are built and used: `bind`, `interpret` and `run`.
-/

namespace StartOnReady.Effects.Program

variable {I J : Interface} {α β σ : Type}

/-- Whether a program that gets allowed answers only ends with a result in `post`. -/
def Ensures (allowed : (q : I.Question) → I.Answer q → Prop) (post : α → Prop) :
    Program I α → Prop
  | done a => post a
  | ask q next => ∀ reply, allowed q reply → (next reply).Ensures allowed post

variable {allowed : (q : I.Question) → I.Answer q → Prop} {post : α → Prop} {p : Program I α}

theorem ensures_of_forall (all : ∀ a, post a) (p : Program I α) : p.Ensures allowed post := by
  induction p with
  | done a => exact all a
  | ask q next ih => exact fun reply _ => ih reply

theorem ensures_question (q : I.Question) : (question q).Ensures allowed (allowed q) :=
  fun _ allowed => allowed

theorem Ensures.bind {f : α → Program I β} {post' : β → Prop} (first : p.Ensures allowed post)
    (rest : ∀ a, post a → (f a).Ensures allowed post') : (p.bind f).Ensures allowed post' := by
  induction p with
  | done a => exact rest a first
  | ask q next ih => exact fun reply here => ih reply (first reply here)

/-- A program can be served by programs that ensure allowed answers. -/
theorem Ensures.interpret {allowed' : (q : J.Question) → J.Answer q → Prop}
    {inner : (q : I.Question) → Program J (I.Answer q)} (h : p.Ensures allowed post)
    (served : ∀ q, (inner q).Ensures allowed' (allowed q)) :
    (p.interpret inner).Ensures allowed' post := by
  induction p with
  | done a => exact h
  | ask q next ih => exact (served q).bind fun reply here => ih reply (h reply here)

/-- A run keeps every invariant under which the answers are allowed ones. -/
theorem Ensures.run {answer : (q : I.Question) → σ → I.Answer q × σ} {inv : σ → Prop}
    (h : p.Ensures allowed post)
    (keeps : ∀ q s, inv s → allowed q (answer q s).1 ∧ inv (answer q s).2) {s : σ} (start : inv s) :
    post (p.run answer s).1 ∧ inv (p.run answer s).2 := by
  induction p generalizing s with
  | done a => exact ⟨h, start⟩
  | ask q next ih =>
    obtain ⟨here, left⟩ := keeps q s start
    exact ih _ (h _ here) left

end StartOnReady.Effects.Program
