import VolumeDrain.Script

/-!
# Exchanges of a script

A script alone, without anyone in particular who answers: what it asks next depends on the replies
so far, and it can be stopped after any of them. A world that may answer in more than one way is
joined to the exchanges afterwards, so what is shown of the exchanges holds in every world.
-/
namespace VolumeDrain.Script

variable {Question : Type} {Reply : Question → Type} {α β σ : Type}

/-- A question and the reply it got. -/
structure Exchange (Reply : Question → Type) where
  question : Question
  reply : Reply question

/-- From its start a script can have these exchanges, after which another script is left to run. -/
inductive Exchanges : Script Reply α → List (Exchange Reply) → Script Reply α → Prop
  | stop (s : Script Reply α) : Exchanges s [] s
  | ask {q : Question} {resume : Reply q → Script Reply α} {r : Reply q}
      {t : List (Exchange Reply)} {rest : Script Reply α} (h : Exchanges (resume r) t rest) :
      Exchanges (.ask q resume) (⟨q, r⟩ :: t) rest

theorem Exchanges.of_done {a : α} {t : List (Exchange Reply)} {rest : Script Reply α}
    (h : Exchanges (done a) t rest) : t = [] ∧ rest = done a := by
  cases h
  exact ⟨rfl, rfl⟩

theorem Exchanges.of_ask {q : Question} {resume : Reply q → Script Reply α}
    {t : List (Exchange Reply)} {rest : Script Reply α} (h : Exchanges (.ask q resume) t rest) :
    (t = [] ∧ rest = .ask q resume) ∨
      ∃ r u, t = ⟨q, r⟩ :: u ∧ Exchanges (resume r) u rest := by
  cases h with
  | stop => exact .inl ⟨rfl, rfl⟩
  | ask h => exact .inr ⟨_, _, rfl, h⟩

/-- A script made of two parts is stopped in the first, or ends it and goes on with the second. -/
theorem Exchanges.of_bind {s : Script Reply α} {f : α → Script Reply β}
    {t : List (Exchange Reply)} {rest : Script Reply β} (h : Exchanges (s >>= f) t rest) :
    (∃ s', Exchanges s t s' ∧ rest = s' >>= f) ∨
      ∃ a t₁ t₂, t = t₁ ++ t₂ ∧ Exchanges s t₁ (done a) ∧ Exchanges (f a) t₂ rest := by
  induction s generalizing t with
  | done a => exact .inr ⟨a, [], t, rfl, .stop _, h⟩
  | ask q resume ih =>
    rw [ask_bind] at h
    rcases h.of_ask with ⟨rfl, rfl⟩ | ⟨r, u, rfl, hu⟩
    · exact .inl ⟨_, .stop _, rfl⟩
    · rcases ih r hu with ⟨s', hs, hrest⟩ | ⟨a, t₁, t₂, rfl, h₁, h₂⟩
      · exact .inl ⟨s', .ask hs, hrest⟩
      · exact .inr ⟨a, ⟨q, r⟩ :: t₁, t₂, rfl, .ask h₁, h₂⟩

theorem bind_eq_done {s : Script Reply α} {f : α → Script Reply β} {b : β}
    (h : s >>= f = done b) : ∃ a, s = done a ∧ f a = done b := by
  cases s with
  | done a => exact ⟨a, rfl, h⟩
  | ask q resume => cases h

/-- A script made of two parts that has come to its end has ended both. -/
theorem Exchanges.of_bind_done {s : Script Reply α} {f : α → Script Reply β}
    {t : List (Exchange Reply)} {b : β} (h : Exchanges (s >>= f) t (done b)) :
    ∃ a t₁ t₂, t = t₁ ++ t₂ ∧ Exchanges s t₁ (done a) ∧ Exchanges (f a) t₂ (done b) := by
  rcases h.of_bind with ⟨s', hs, hrest⟩ | h
  · obtain ⟨a, rfl, ha⟩ := bind_eq_done hrest.symm
    exact ⟨a, t, [], (List.append_nil t).symm, hs, ha ▸ .stop _⟩
  · exact h

theorem Exchanges.of_question {q : Question} {t : List (Exchange Reply)} {r : Reply q}
    (h : Exchanges (question q) t (done r)) : t = [⟨q, r⟩] := by
  rcases h.of_ask with ⟨-, hrest⟩ | ⟨r', u, rfl, hu⟩
  · cases hrest
  · obtain ⟨rfl, hr⟩ := hu.of_done
    cases hr
    rfl

/-- A step that may fail has been followed by the next one, unless it failed. -/
theorem Exchanges.of_run_bind_done {ε : Type} {step : ExceptT ε (Script Reply) α}
    {k : α → ExceptT ε (Script Reply) β} {t : List (Exchange Reply)} {b : Except ε β}
    (h : Exchanges (step >>= k).run t (done b)) :
    (∃ a t₁ t₂, t = t₁ ++ t₂ ∧ Exchanges step.run t₁ (done (.ok a)) ∧
        Exchanges (k a).run t₂ (done b)) ∨
      ∃ e, Exchanges step.run t (done (.error e)) ∧ b = .error e := by
  rw [ExceptT.run_bind] at h
  obtain ⟨r, t₁, t₂, rfl, h₁, h₂⟩ := h.of_bind_done
  cases r with
  | ok a => exact .inl ⟨a, t₁, t₂, rfl, h₁, h₂⟩
  | error e =>
    obtain ⟨rfl, hb⟩ := h₂.of_done
    cases hb
    rw [List.append_nil]
    exact .inr ⟨e, h₁, rfl⟩

theorem Exchanges.bind {s : Script Reply α} {f : α → Script Reply β} {a : α}
    {t u : List (Exchange Reply)} {rest : Script Reply β} (h : Exchanges s t (done a))
    (hu : Exchanges (f a) u rest) : Exchanges (s >>= f) (t ++ u) rest := by
  induction s generalizing t with
  | done b =>
    obtain ⟨rfl, hb⟩ := h.of_done
    cases hb
    exact hu
  | ask q resume ih =>
    rcases h.of_ask with ⟨-, hrest⟩ | ⟨r, t, rfl, ht⟩
    · cases hrest
    · exact .ask (ih r ht)

/-- A script that has not come to its end can be the first of two parts, too. -/
theorem Exchanges.bind_first {s s' : Script Reply α} {t : List (Exchange Reply)}
    (h : Exchanges s t s') (f : α → Script Reply β) : Exchanges (s >>= f) t (s' >>= f) := by
  induction h with
  | stop => exact .stop _
  | ask _ ih => exact .ask ih

theorem Exchanges.append {s mid : Script Reply α} {t u : List (Exchange Reply)}
    {rest : Script Reply α} (ht : Exchanges s t mid) (hu : Exchanges mid u rest) :
    Exchanges s (t ++ u) rest := by
  induction ht with
  | stop => exact hu
  | ask _ ih => exact .ask (ih hu)

/-- What a script does after some exchanges is up to what was left of it. -/
theorem Exchanges.after {s mid : Script Reply α} {t u : List (Exchange Reply)}
    {rest : Script Reply α} (ht : Exchanges s t mid) (h : Exchanges s (t ++ u) rest) :
    Exchanges mid u rest := by
  induction ht with
  | stop => exact h
  | ask _ ih =>
    cases h with
    | ask h => exact ih h

/-- A script that has come to its end once cannot go on beyond it. -/
theorem Exchanges.unique {s : Script Reply α} {t u : List (Exchange Reply)} {a b : α}
    (ht : Exchanges s t (done a)) (hu : Exchanges s u (done b)) (h : t <+: u ∨ u <+: t) :
    a = b := by
  rcases h with ⟨v, rfl⟩ | ⟨v, rfl⟩
  · cases (ht.after hu).of_done.2
    rfl
  · cases (hu.after ht).of_done.2
    rfl

/-! ## Worlds that answer -/

/-- The exchanges lead a world from one state to another. -/
def Follows (answers : (q : Question) → σ → Reply q → σ → Prop) :
    List (Exchange Reply) → σ → σ → Prop
  | [], s, s' => s' = s
  | e :: t, s, s' => ∃ mid, answers e.question s e.reply mid ∧ Follows answers t mid s'

theorem follows_append {answers : (q : Question) → σ → Reply q → σ → Prop}
    {t u : List (Exchange Reply)} {s s' : σ} :
    Follows answers (t ++ u) s s' ↔ ∃ mid, Follows answers t s mid ∧ Follows answers u mid s' := by
  induction t generalizing s with
  | nil => simp [Follows]
  | cons e t ih =>
    simp only [List.cons_append, Follows, ih]
    constructor
    · rintro ⟨mid, he, last, ht, hu⟩
      exact ⟨last, ⟨mid, he, ht⟩, hu⟩
    · rintro ⟨last, ⟨mid, he, ht⟩, hu⟩
      exact ⟨mid, he, last, ht, hu⟩

theorem follows_mono {answers answers' : (q : Question) → σ → Reply q → σ → Prop}
    (h : ∀ q s r s', answers q s r s' → answers' q s r s') {t : List (Exchange Reply)} {s s' : σ}
    (ht : Follows answers t s s') : Follows answers' t s s' := by
  induction t generalizing s with
  | nil => exact ht
  | cons e t ih =>
    obtain ⟨mid, he, hrest⟩ := ht
    exact ⟨mid, h _ _ _ _ he, ih hrest⟩

/-- The exchanges of a script with someone who answers from a state of their own. -/
def transcript (answer : (q : Question) → σ → Reply q × σ) :
    Script Reply α → σ → List (Exchange Reply)
  | done _, _ => []
  | .ask q resume, s =>
    ⟨q, (answer q s).1⟩ :: transcript answer (resume (answer q s).1) (answer q s).2

theorem exchanges_transcript (answer : (q : Question) → σ → Reply q × σ) (script : Script Reply α)
    (s : σ) : Exchanges script (transcript answer script s) (done (run answer script s).1) := by
  induction script generalizing s with
  | done a => exact .stop _
  | ask q resume ih => exact .ask (ih _ _)

theorem transcript_bind (answer : (q : Question) → σ → Reply q × σ) (script : Script Reply α)
    (f : α → Script Reply β) (s : σ) :
    transcript answer (script >>= f) s = transcript answer script s ++
      transcript answer (f (run answer script s).1) (run answer script s).2 := by
  induction script generalizing s with
  | done a => rfl
  | ask q resume ih => exact congrArg (List.cons _) (ih _ _)

/-- Who answers from a state of their own leads a world along, if the world can give each answer
between the states that stand for theirs. -/
theorem follows_transcript {τ : Type} {answers : (q : Question) → τ → Reply q → τ → Prop}
    {answer : (q : Question) → σ → Reply q × σ} {f : σ → τ}
    (h : ∀ q s, answers q (f s) (answer q s).1 (f (answer q s).2)) (script : Script Reply α)
    (s : σ) : Follows answers (transcript answer script s) (f s) (f (run answer script s).2) := by
  induction script generalizing s with
  | done a => rfl
  | ask q resume ih => exact ⟨_, h q s, ih _ _⟩

/-- The same of someone whose answers count only in some states, which the answers do not leave. -/
theorem follows_transcript_of {τ : Type} {answers : (q : Question) → τ → Reply q → τ → Prop}
    {answer : (q : Question) → σ → Reply q × σ} {f : σ → τ} {I : σ → Prop}
    (h : ∀ q s, I s → answers q (f s) (answer q s).1 (f (answer q s).2) ∧ I (answer q s).2)
    (script : Script Reply α) {s : σ} (hs : I s) :
    Follows answers (transcript answer script s) (f s) (f (run answer script s).2) ∧
      I (run answer script s).2 := by
  induction script generalizing s with
  | done a => exact ⟨rfl, hs⟩
  | ask q resume ih =>
    obtain ⟨hanswer, hnext⟩ := h q s hs
    obtain ⟨hrest, hlast⟩ := ih _ hnext
    exact ⟨⟨_, hanswer, hrest⟩, hlast⟩

theorem reply_of_mem_transcript {answer : (q : Question) → σ → Reply q × σ}
    {script : Script Reply α} {s : σ} {e : Exchange Reply} (h : e ∈ transcript answer script s) :
    ∃ s, e.reply = (answer e.question s).1 := by
  induction script generalizing s with
  | done a => simp [transcript] at h
  | ask q resume ih =>
    rcases List.mem_cons.1 h with rfl | h
    · exact ⟨s, rfl⟩
    · exact ih _ h

/-! ## Scripts that come to their end -/

/-- In a world that answers like this a script can come to its end with a value. -/
def Yields (answers : (q : Question) → σ → Reply q → σ → Prop) (script : Script Reply α) (s : σ)
    (a : α) (s' : σ) : Prop :=
  ∃ t, Exchanges script t (done a) ∧ Follows answers t s s'

section

variable {answers : (q : Question) → σ → Reply q → σ → Prop} {script : Script Reply α}
  {s s' s'' : σ} {a b : α}

theorem Yields.of_done (h : Yields answers (done a) s b s') : b = a ∧ s' = s := by
  obtain ⟨t, ht, hf⟩ := h
  obtain ⟨rfl, hb⟩ := ht.of_done
  cases hb
  exact ⟨rfl, hf⟩

theorem Yields.of_bind {f : α → Script Reply β} {b : β}
    (h : Yields answers (script >>= f) s b s'') :
    ∃ a s', Yields answers script s a s' ∧ Yields answers (f a) s' b s'' := by
  obtain ⟨t, ht, hf⟩ := h
  obtain ⟨a, t₁, t₂, rfl, h₁, h₂⟩ := ht.of_bind_done
  obtain ⟨mid, hf₁, hf₂⟩ := follows_append.1 hf
  exact ⟨a, mid, ⟨t₁, h₁, hf₁⟩, ⟨t₂, h₂, hf₂⟩⟩

theorem Yields.of_map {f : α → β} {b : β} (h : Yields answers (f <$> script) s b s') :
    ∃ a, Yields answers script s a s' ∧ b = f a := by
  rw [map_eq_pure_bind] at h
  obtain ⟨a, mid, hscript, hdone⟩ := h.of_bind
  obtain ⟨rfl, rfl⟩ := hdone.of_done
  exact ⟨a, hscript, rfl⟩

theorem Yields.of_ask {q : Question} {resume : Reply q → Script Reply α}
    (h : Yields answers (.ask q resume) s a s'') :
    ∃ r s', answers q s r s' ∧ Yields answers (resume r) s' a s'' := by
  obtain ⟨t, ht, hf⟩ := h
  rcases ht.of_ask with ⟨-, hrest⟩ | ⟨r, u, rfl, hu⟩
  · cases hrest
  · obtain ⟨s', hanswer, hrest⟩ := hf
    exact ⟨r, s', hanswer, u, hu, hrest⟩

theorem Yields.ask {q : Question} {resume : Reply q → Script Reply α} {r : Reply q}
    (hanswer : answers q s r s') (h : Yields answers (resume r) s' a s'') :
    Yields answers (.ask q resume) s a s'' := by
  obtain ⟨t, ht, hf⟩ := h
  exact ⟨⟨q, r⟩ :: t, .ask ht, s', hanswer, hf⟩

theorem Yields.bind {f : α → Script Reply β} {b : β} (h : Yields answers script s a s')
    (hf : Yields answers (f a) s' b s'') : Yields answers (script >>= f) s b s'' := by
  obtain ⟨t, ht, hfollows⟩ := h
  obtain ⟨u, hu, hrest⟩ := hf
  exact ⟨t ++ u, ht.bind hu, follows_append.2 ⟨s', hfollows, hrest⟩⟩

theorem Yields.of_question {q : Question} {r : Reply q} (h : Yields answers (question q) s r s') :
    answers q s r s' := by
  obtain ⟨r', mid, hanswer, hdone⟩ := h.of_ask
  obtain ⟨rfl, rfl⟩ := hdone.of_done
  exact hanswer

/-- A step that may fail is followed by the next one, unless it fails. -/
theorem Yields.of_run_bind {ε : Type} {step : ExceptT ε (Script Reply) α}
    {k : α → ExceptT ε (Script Reply) β} {b : Except ε β}
    (h : Yields answers (step >>= k).run s b s'') :
    (∃ a s', Yields answers step.run s (.ok a) s' ∧ Yields answers (k a).run s' b s'') ∨
      ∃ e, Yields answers step.run s (.error e) s'' ∧ b = .error e := by
  rw [ExceptT.run_bind] at h
  obtain ⟨r, mid, h₁, h₂⟩ := h.of_bind
  cases r with
  | ok a => exact .inl ⟨a, mid, h₁, h₂⟩
  | error e =>
    obtain ⟨rfl, rfl⟩ := h₂.of_done
    exact .inr ⟨e, h₁, rfl⟩

theorem yields_run {answer : (q : Question) → σ → Reply q × σ}
    (h : ∀ q s, answers q s (answer q s).1 (answer q s).2) (script : Script Reply α) (s : σ) :
    Yields answers script s (run answer script s).1 (run answer script s).2 :=
  ⟨_, exchanges_transcript answer script s, follows_transcript (f := id) h script s⟩

/-- Where each question is asked by other questions, the world that answers these answers it. -/
theorem yields_expand {Question' : Type} {Reply' : Question' → Type}
    {answers' : (q : Question') → σ → Reply' q → σ → Prop}
    {ask' : (q : Question) → Script Reply' (Reply q)} {script : Script Reply α} :
    Yields answers' (script.expand ask') s a s' ↔
      Yields (fun q => Yields answers' (ask' q)) script s a s' := by
  induction script generalizing s with
  | done b =>
    constructor <;> intro h <;> obtain ⟨rfl, rfl⟩ := h.of_done <;> exact ⟨[], .stop _, rfl⟩
  | ask q resume ih =>
    constructor
    · intro h
      obtain ⟨r, mid, hasked, hrest⟩ := Yields.of_bind h
      exact .ask hasked ((ih r).1 hrest)
    · intro h
      obtain ⟨r, mid, hasked, hrest⟩ := h.of_ask
      exact .bind hasked ((ih r).2 hrest)

end

/-! ## Questions asked by other questions -/

section

variable {Question' : Type} {Reply' : Question' → Type}
  {ask' : (q : Question) → Script Reply' (Reply q)} {t : List (Exchange Reply')}

/-- The exchanges are carried out in order, each by those of the script that asks for it. -/
inductive Carried (ask' : (q : Question) → Script Reply' (Reply q)) :
    List (Exchange Reply) → List (Exchange Reply') → Prop
  | nil : Carried ask' [] []
  | cons {q : Question} {r : Reply q} {u : List (Exchange Reply)} {t t' : List (Exchange Reply')}
      (h : Exchanges (ask' q) t (done r)) (hu : Carried ask' u t') :
      Carried ask' (⟨q, r⟩ :: u) (t ++ t')

theorem Carried.of_nil (h : Carried ask' [] t) : t = [] := by
  cases h
  rfl

theorem Carried.of_cons {e : Exchange Reply} {u : List (Exchange Reply)}
    (h : Carried ask' (e :: u) t) : ∃ t₁ t₂, t = t₁ ++ t₂ ∧
      Exchanges (ask' e.question) t₁ (done e.reply) ∧ Carried ask' u t₂ := by
  cases h with
  | cons h hu => exact ⟨_, _, rfl, h, hu⟩

theorem Carried.of_append {u v : List (Exchange Reply)} (h : Carried ask' (u ++ v) t) :
    ∃ t₁ t₂, t = t₁ ++ t₂ ∧ Carried ask' u t₁ ∧ Carried ask' v t₂ := by
  induction u generalizing t with
  | nil => exact ⟨[], t, rfl, .nil, h⟩
  | cons e u ih =>
    obtain ⟨t₁, t₂, rfl, he, hrest⟩ := h.of_cons
    obtain ⟨t₃, t₄, rfl, hu, hv⟩ := ih hrest
    exact ⟨t₁ ++ t₃, t₄, (List.append_assoc _ _ _).symm, .cons he hu, hv⟩

/-- Where each exchange is carried out by one other, there is one for each. -/
theorem Carried.eq_map {one : Exchange Reply → Exchange Reply'} {u : List (Exchange Reply)}
    (hone : ∀ (q : Question) (r : Reply q) (t : List (Exchange Reply')),
      Exchanges (ask' q) t (done r) → t = [one ⟨q, r⟩])
    (h : Carried ask' u t) : t = u.map one := by
  induction h with
  | nil => rfl
  | cons h _ ih =>
    rw [hone _ _ _ h, ih]
    rfl

/-- The exchanges of a script that is carried out by others are carried out by theirs. -/
theorem exchanges_of_expand {script : Script Reply α} {a : α}
    (h : Exchanges (script.expand ask') t (done a)) :
    ∃ u, Exchanges script u (done a) ∧ Carried ask' u t := by
  induction script generalizing t with
  | done b =>
    obtain ⟨rfl, hb⟩ := h.of_done
    cases hb
    exact ⟨[], .stop _, .nil⟩
  | ask q resume ih =>
    obtain ⟨r, t₁, t₂, rfl, hasked, hrest⟩ := Exchanges.of_bind_done h
    obtain ⟨u, hu, hcarried⟩ := ih r hrest
    exact ⟨⟨q, r⟩ :: u, .ask hu, .cons hasked hcarried⟩

end

end VolumeDrain.Script
