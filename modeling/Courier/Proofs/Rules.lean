import Courier.Program

/-!
# Proofs — Rules

What a program may ask, given what it has been told.  `Rules` is an automaton over requests and
answers: it says which request is permitted in a state, and the state that an answer leads to.
`Program.Follows` says that a program keeps to the rules whatever it is answered, and that a value
it ends with meets a post-condition.

Rules compose along `bind` (`Follows.bind`), and one answered request leaves a program that still
keeps to them (`Follows.answer`), so that what the rules say holds of every interleaving.
`Program.Leaves` is what may be left of a program after any number of answers.
-/

namespace Courier

/-- An automaton over requests and their answers. -/
structure Rules (σ : Type) where
  permits : σ → Request → Prop
  next : σ → (r : Request) → r.Answer → σ

namespace Program

variable {σ α β : Type} {R : Rules σ}

/-- Every request that the program makes is permitted, and every value that it ends with meets the
post-condition.  A crash makes no further request. -/
def Follows (R : Rules σ) (Q : σ → α → Prop) : Program α → σ → Prop
  | .done a, s => Q s a
  | .crash, _ => True
  | .ask r next, s => R.permits s r ∧ ∀ answer, Follows R Q (next answer) (R.next s r answer)

theorem Follows.bind {P : σ → α → Prop} {Q : σ → β → Prop} {p : Program α} {f : α → Program β}
    {s : σ} (h : p.Follows R P s) (hf : ∀ t a, P t a → (f a).Follows R Q t) :
    (p.bind f).Follows R Q s := by
  induction p generalizing s with
  | done a => exact hf s a h
  | crash => trivial
  | ask r next ih => exact ⟨h.1, fun answer => ih answer (h.2 answer)⟩

/-- What may be left of a program after some answers. -/
inductive Leaves (p : Program α) : Program α → Prop where
  | all : Leaves p p
  | answer {r : Request} {next : r.Answer → Program α} (h : Leaves p (.ask r next))
      (answer : r.Answer) : Leaves p (next answer)

/-- What is left of a program keeps to the rules, from wherever the answers have led. -/
theorem Follows.leaves {Q : σ → α → Prop} {p q : Program α} {s : σ} (h : p.Follows R Q s)
    (hq : p.Leaves q) : ∃ t, q.Follows R Q t := by
  induction hq with
  | all => exact ⟨s, h⟩
  | answer _ a ih =>
      obtain ⟨t, ht⟩ := ih
      exact ⟨_, ht.2 a⟩

/-- A request, and then what its answer calls for. -/
theorem Follows.ask {Q : σ → β → Prop} {r : Request} {f : r.Answer → Program β} {s : σ}
    (h : R.permits s r) (hf : ∀ answer, (f answer).Follows R Q (R.next s r answer)) :
    ((request r).bind f).Follows R Q s :=
  ⟨h, hf⟩

theorem orCrash_some_bind (a : α) (f : α → Program β) : (Program.orCrash (some a)).bind f = f a :=
  rfl

/-- A value that has to be there is there, or the program crashes. -/
theorem Follows.orCrash {Q : σ → β → Prop} {o : Option α} {f : α → Program β} {s : σ}
    (hf : ∀ a, o = some a → (f a).Follows R Q s) : ((Program.orCrash o).bind f).Follows R Q s := by
  cases o with
  | none => trivial
  | some a => exact hf a rfl

/-- What is left of a program after an answer keeps to the rules; after none, it has crashed. -/
theorem Follows.answer {Q : σ → α → Prop} {r : Request} {next : r.Answer → Program α} {s : σ}
    (h : (Program.ask r next).Follows R Q s) (answer : Option r.Answer) (t : σ) :
    (answer.elim .crash next).Follows R Q (answer.elim t (R.next s r)) := by
  cases answer with
  | none => trivial
  | some a => exact h.2 a

end Program

end Courier
