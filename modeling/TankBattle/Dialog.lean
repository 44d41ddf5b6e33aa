import Mathlib.Tactic

/-!
# Programs in dialogue with a device

A program sends commands to a device and asks it for values.  Nothing is assumed about the answers.
This file is about such programs in general.

* `Prog`: programs with commands `ω`, queries `κ`, answers `ρ` and unbounded loops;
* `Prog.Trace`: what has passed between program and device up to any moment of a run;
* `Prog.exec`: the run with a given device, every loop limited to a number of rounds;
* `Prog.trace_take`: traces are closed under prefixes;
* `Prog.Proper`, `Prog.Proper.trace`: what is so in the text of a program is so in its traces;
* `Prog.Busy`, `Prog.GoesOn`, `Prog.Proper.goesOn`: if no loop goes round without an event, the
  program never comes to a standstill;
* `Monitor`: a state that follows the events, what it demands of them, and what the device may
  answer;
* `Monitor.wp`, `Monitor.wp_sound`: weakest preconditions, and that they hold of every trace;
* `Monitor.Triple`: preconditions and postconditions on a part of the state, and their rules.
-/

namespace Dialog

/-- What passes between program and device. -/
inductive Event (ω κ ρ : Type)
  | tell (w : ω)
  | ask (q : κ) (r : ρ)
  deriving DecidableEq

/-- Programs; a loop goes on with `inl` and ends with `inr`. -/
inductive Prog (ω κ ρ : Type) : Type → Type 1
  | ret {α : Type} (a : α) : Prog ω κ ρ α
  | tell (w : ω) : Prog ω κ ρ Unit
  | ask (q : κ) : Prog ω κ ρ ρ
  | bind {α β : Type} (p : Prog ω κ ρ α) (f : α → Prog ω κ ρ β) : Prog ω κ ρ β
  | loop {σ α : Type} (body : σ → Prog ω κ ρ (σ ⊕ α)) (s : σ) : Prog ω κ ρ α

variable {ω κ ρ α β σ μ δ : Type}

instance : Monad (Prog ω κ ρ) where
  pure := .ret
  bind := .bind

/-- The traces of a loop, from the traces of its body. -/
inductive LoopTrace {ε : Type} (body : σ → List ε → Option (σ ⊕ α) → Prop) :
    σ → List ε → Option α → Prop
  | start {s : σ} : LoopTrace body s [] none
  | stop {s : σ} {l : List ε} (h : body s l none) : LoopTrace body s l none
  | next {s s' : σ} {l l' : List ε} {o : Option α} (h : body s l (some (.inl s')))
      (h' : LoopTrace body s' l' o) : LoopTrace body s (l ++ l') o
  | done {s : σ} {l : List ε} {a : α} (h : body s l (some (.inr a))) : LoopTrace body s l (some a)

namespace Prog

/-- The events up to some moment of a run, and the result if the program has come to its end. -/
def Trace : {α : Type} → Prog ω κ ρ α → List (Event ω κ ρ) → Option α → Prop
  | _, .ret a, l, o => l = [] ∧ o = some a
  | _, .tell w, l, o => l = [] ∧ o = none ∨ l = [.tell w] ∧ o = some ()
  | _, .ask q, l, o => l = [] ∧ o = none ∨ ∃ r, l = [.ask q r] ∧ o = some r
  | _, .bind p f, l, o => (p.Trace l none ∧ o = none) ∨
      ∃ a l₁ l₂, p.Trace l₁ (some a) ∧ (f a).Trace l₂ o ∧ l = l₁ ++ l₂
  | _, .loop body s, l, o => LoopTrace (fun s => (body s).Trace) s l o

/-- At most `n` rounds of a loop with a given device. -/
def rounds {ε : Type} (body : σ → δ → List ε × δ × Option (σ ⊕ α)) :
    ℕ → σ → δ → List ε × δ × Option α
  | 0, _, d => ([], d, none)
  | n + 1, s, d =>
    match body s d with
    | (l, d, none) => (l, d, none)
    | (l, d, some (.inl s)) => let (l', d, o) := rounds body n s d; (l ++ l', d, o)
    | (l, d, some (.inr a)) => (l, d, some a)

/-- The run with a device that takes commands and gives answers, up to `n` rounds of each loop. -/
def exec (n : ℕ) (take : δ → ω → δ) (answer : δ → κ → ρ × δ) :
    {α : Type} → Prog ω κ ρ α → δ → List (Event ω κ ρ) × δ × Option α
  | _, .ret a, d => ([], d, some a)
  | _, .tell w, d => ([.tell w], take d w, some ())
  | _, .ask q, d => let (r, d) := answer d q; ([.ask q r], d, some r)
  | _, .bind p f, d =>
    match p.exec n take answer d with
    | (l, d, none) => (l, d, none)
    | (l, d, some a) => let (l', d, o) := (f a).exec n take answer d; (l ++ l', d, o)
  | _, .loop body s, d => rounds (fun s => (body s).exec n take answer) n s d

/-- The rounds of a loop are a trace of it, if those of its body are. -/
theorem rounds_trace {ε : Type} {body : σ → List ε → Option (σ ⊕ α) → Prop}
    {f : σ → δ → List ε × δ × Option (σ ⊕ α)} (hf : ∀ s d, body s (f s d).1 (f s d).2.2)
    (n : ℕ) (s : σ) (d : δ) :
    LoopTrace body s (rounds f n s d).1 (rounds f n s d).2.2 := by
  induction n generalizing s d with
  | zero => exact .start
  | succ n ih =>
    have hb := hf s d
    rw [rounds]
    split <;> rename_i hfs <;> rw [hfs] at hb
    · exact .stop hb
    · exact .next hb (ih _ _)
    · exact .done hb

/-- **The run with a device is a trace** of the program. -/
theorem exec_trace (n : ℕ) (take : δ → ω → δ) (answer : δ → κ → ρ × δ) (p : Prog ω κ ρ α) (d : δ) :
    p.Trace (p.exec n take answer d).1 (p.exec n take answer d).2.2 := by
  induction p generalizing d with
  | ret a => exact ⟨rfl, rfl⟩
  | tell w => exact .inr ⟨rfl, rfl⟩
  | ask q => exact .inr ⟨_, rfl, rfl⟩
  | bind p f ihp ihf =>
    have hp := ihp d
    rw [exec]
    split <;> rename_i heq <;> rw [heq] at hp
    · exact .inl ⟨hp, rfl⟩
    · exact .inr ⟨_, _, _, hp, ihf _ _, rfl⟩
  | loop body s ih => exact rounds_trace (fun s d => ih s d) n s d

/-! ### Prefixes -/

/-- Nothing may have happened yet. -/
theorem trace_nil (p : Prog ω κ ρ α) : ∃ o, p.Trace [] o := by
  induction p with
  | ret a => exact ⟨some a, rfl, rfl⟩
  | tell w => exact ⟨none, .inl ⟨rfl, rfl⟩⟩
  | ask q => exact ⟨none, .inl ⟨rfl, rfl⟩⟩
  | bind p f ihp ihf =>
    obtain ⟨o, hp⟩ := ihp
    cases o with
    | none => exact ⟨none, .inl ⟨hp, rfl⟩⟩
    | some a =>
      obtain ⟨o, hf⟩ := ihf a
      exact ⟨o, .inr ⟨a, [], [], hp, hf, rfl⟩⟩
  | loop body s _ => exact ⟨none, .start⟩

theorem take_single {ε : Type} (e : ε) (k : ℕ) : [e].take k = [] ∨ [e].take k = [e] := by
  cases k <;> simp

/-- The prefixes of a trace of a loop, from those of its body. -/
theorem loopTrace_take {ε : Type} {body : σ → List ε → Option (σ ⊕ α) → Prop}
    (hbody : ∀ s l o, body s l o → ∀ k, ∃ o', body s (l.take k) o') {s : σ} {l : List ε}
    {o : Option α} (h : LoopTrace body s l o) (k : ℕ) : ∃ o', LoopTrace body s (l.take k) o' := by
  have hround : ∀ s l o, body s l o → ∀ k, ∃ o', LoopTrace body s (l.take k) o' :=
    fun s l o hl k => by
      obtain ⟨o', h'⟩ := hbody s l o hl k
      rcases o' with _ | s' | a
      · exact ⟨none, .stop h'⟩
      · exact ⟨none, by simpa using LoopTrace.next h' .start⟩
      · exact ⟨some a, .done h'⟩
  induction h generalizing k with
  | start =>
    rw [List.take_nil]
    exact ⟨none, .start⟩
  | stop h => exact hround _ _ _ h k
  | @next s s' l l' o h h' ih =>
    rcases Nat.le_total k l.length with hk | hk
    · rw [List.take_append_of_le_length hk]
      exact hround _ _ _ h k
    · obtain ⟨o', h'⟩ := ih (k - l.length)
      rw [List.take_append, List.take_of_length_le hk]
      exact ⟨o', .next h h'⟩
  | done h => exact hround _ _ _ h k

/-- **Traces are closed under prefixes**. -/
theorem trace_take {p : Prog ω κ ρ α} {l : List (Event ω κ ρ)} {o : Option α} (h : p.Trace l o)
    (k : ℕ) : ∃ o', p.Trace (l.take k) o' := by
  induction p generalizing l k with
  | ret a =>
    obtain ⟨rfl, rfl⟩ := h
    exact ⟨some a, List.take_nil, rfl⟩
  | tell w =>
    rcases h with ⟨rfl, -⟩ | ⟨rfl, -⟩
    · rw [List.take_nil]
      exact trace_nil _
    · rcases take_single (Event.tell w : Event ω κ ρ) k with hk | hk <;> rw [hk]
      · exact trace_nil _
      · exact ⟨_, .inr ⟨rfl, rfl⟩⟩
  | ask q =>
    rcases h with ⟨rfl, -⟩ | ⟨r, rfl, -⟩
    · rw [List.take_nil]
      exact trace_nil _
    · rcases take_single (Event.ask q r : Event ω κ ρ) k with hk | hk <;> rw [hk]
      · exact trace_nil _
      · exact ⟨_, .inr ⟨r, rfl, rfl⟩⟩
  | bind p f ihp ihf =>
    have hfirst : ∀ l o, p.Trace l o → ∀ k, ∃ o', (p.bind f).Trace (l.take k) o' :=
      fun l o hl k => by
        obtain ⟨o', h'⟩ := ihp hl k
        cases o' with
        | none => exact ⟨none, .inl ⟨h', rfl⟩⟩
        | some a =>
          obtain ⟨o, hf⟩ := trace_nil (f a)
          exact ⟨o, .inr ⟨a, _, [], h', hf, (List.append_nil _).symm⟩⟩
    rcases h with ⟨h, -⟩ | ⟨a, l₁, l₂, h₁, h₂, rfl⟩
    · exact hfirst l _ h k
    · rcases Nat.le_total k l₁.length with hk | hk
      · rw [List.take_append_of_le_length hk]
        exact hfirst l₁ _ h₁ k
      · obtain ⟨o', h'⟩ := ihf a h₂ (k - l₁.length)
        refine ⟨o', .inr ⟨a, l₁, _, h₁, h', ?_⟩⟩
        rw [List.take_append, List.take_of_length_le hk]
  | loop body s ih => exact loopTrace_take (fun s l o hl k => ih s hl k) h k

/-! ### The text of a program -/

/-- All commands in the text of a program are as `P` says, all queries as `Q` says, and no loop goes
round without an event. -/
def Proper (P : ω → Prop) (Q : κ → Prop) : {α : Type} → Prog ω κ ρ α → Prop
  | _, .ret _ => True
  | _, .tell w => P w
  | _, .ask q => Q q
  | _, .bind p f => p.Proper P Q ∧ ∀ a, (f a).Proper P Q
  | _, .loop body _ =>
    ∀ s, (body s).Proper P Q ∧ ∀ s', ¬ (body s).Trace [] (some (.inl s'))

/-- The program does not come to its end without an event. -/
def Busy (p : Prog ω κ ρ α) : Prop := ∀ a, ¬ p.Trace [] (some a)

theorem busy_tell (w : ω) : Busy (.tell w : Prog ω κ ρ Unit) := by
  rintro _ (⟨-, h⟩ | ⟨h, -⟩)
  · cases h
  · cases h

theorem busy_ask (q : κ) : Busy (.ask q : Prog ω κ ρ ρ) := by
  rintro _ (⟨-, h⟩ | ⟨r, h, -⟩)
  · cases h
  · cases h

/-- What begins with an event has one. -/
theorem Busy.bind {p : Prog ω κ ρ α} (h : Busy p) (f : α → Prog ω κ ρ β) : Busy (p >>= f) := by
  rintro b (⟨-, hb⟩ | ⟨a, l₁, l₂, h₁, -, hl⟩)
  · cases hb
  · obtain ⟨rfl, -⟩ := List.append_eq_nil_iff.1 hl.symm
    exact h a h₁

section Proper

variable {P : ω → Prop} {Q : κ → Prop}

theorem proper_ite {c : Prop} [Decidable c] {p q : Prog ω κ ρ α} (hp : p.Proper P Q)
    (hq : q.Proper P Q) : (if c then p else q).Proper P Q := by
  split_ifs
  · exact hp
  · exact hq

theorem proper_forM {γ : Type} {f : γ → Prog ω κ ρ Unit} (l : List γ)
    (h : ∀ x, (f x).Proper P Q) : (l.forM f).Proper P Q := by
  induction l with
  | nil => trivial
  | cons x l ih => exact ⟨h x, fun _ => ih⟩

/-- An event is as the text of a program says. -/
def Obeys (P : ω → Prop) (Q : κ → Prop) : Event ω κ ρ → Prop
  | .tell w => P w
  | .ask q _ => Q q

/-- What is so in the text of a program is so in every trace of it. -/
theorem Proper.trace {p : Prog ω κ ρ α} (h : p.Proper P Q) {l : List (Event ω κ ρ)} {o : Option α}
    (ht : p.Trace l o) : ∀ e ∈ l, Obeys P Q e := by
  induction p generalizing l with
  | ret a =>
    obtain ⟨rfl, -⟩ := ht
    simp
  | tell w =>
    rcases ht with ⟨rfl, -⟩ | ⟨rfl, -⟩
    · simp
    · exact List.forall_mem_singleton.2 h
  | ask q =>
    rcases ht with ⟨rfl, -⟩ | ⟨r, rfl, -⟩
    · simp
    · exact List.forall_mem_singleton.2 h
  | bind p f ihp ihf =>
    rcases ht with ⟨ht, -⟩ | ⟨a, l₁, l₂, h₁, h₂, rfl⟩
    · exact ihp h.1 ht
    · exact List.forall_mem_append.2 ⟨ihp h.1 h₁, ihf a (h.2 a) h₂⟩
  | loop body s ih =>
    have hb : ∀ s l o, (body s).Trace l o → ∀ e ∈ l, Obeys P Q e := fun s l o => ih s (h s).1
    clear ih
    induction ht with
    | start => simp
    | stop ht => exact hb _ _ _ ht
    | next ht _ ih => exact List.forall_mem_append.2 ⟨hb _ _ _ ht, ih h⟩
    | done ht => exact hb _ _ _ ht

/-- After the events `l` there is a next one: a command, or a query, whatever is answered. -/
def GoesOn (T : List (Event ω κ ρ) → Option α → Prop) (l : List (Event ω κ ρ)) : Prop :=
  (∃ w o, T (l ++ [.tell w]) o) ∨ ∃ q, ∀ r, ∃ o, T (l ++ [.ask q r]) o

/-- A part that goes on lets the whole go on. -/
theorem GoesOn.mono {T : List (Event ω κ ρ) → Option α → Prop}
    {T' : List (Event ω κ ρ) → Option β → Prop} {l l' : List (Event ω κ ρ)} (h : GoesOn T l)
    (hT : ∀ e o, T (l ++ [e]) o → ∃ o', T' (l' ++ [e]) o') : GoesOn T' l' := by
  rcases h with ⟨w, o, h⟩ | ⟨q, h⟩
  · exact .inl ⟨w, hT _ o h⟩
  · refine .inr ⟨q, fun r => ?_⟩
    obtain ⟨o, h⟩ := h r
    exact hT _ o h

/-- A loop goes on or is done, if this is so of its rounds and none of them goes on silently. -/
theorem loopTrace_goesOn {body : σ → List (Event ω κ ρ) → Option (σ ⊕ α) → Prop}
    (hnil : ∀ s, ∃ o, body s [] o) (hsilent : ∀ s s', ¬ body s [] (some (.inl s')))
    (hbody : ∀ s l, body s l none → (∃ x, body s l (some x)) ∨ GoesOn (body s) l) {s : σ}
    {l : List (Event ω κ ρ)} {o : Option α} (h : LoopTrace body s l o) (ho : o = none) :
    (∃ a, LoopTrace body s l (some a)) ∨ GoesOn (LoopTrace body s) l := by
  have hround : ∀ s l o, body s l o → ∃ o', LoopTrace body s l o' := by
    rintro s l (_ | s' | a) h
    · exact ⟨none, .stop h⟩
    · exact ⟨none, by simpa using LoopTrace.next h .start⟩
    · exact ⟨some a, .done h⟩
  -- at the start of a round, which does not go on silently
  have hstart : ∀ s, (∃ a, LoopTrace body s [] (some a)) ∨ GoesOn (LoopTrace body s) [] := by
    intro s
    have hend : ∀ x, body s [] (some x) → ∃ a, LoopTrace body s [] (some a) := by
      rintro (s' | a) hx
      · exact absurd hx (hsilent s s')
      · exact ⟨a, .done hx⟩
    obtain ⟨_ | x, hx⟩ := hnil s
    · rcases hbody s [] hx with ⟨x, hx⟩ | hgo
      · exact .inl (hend x hx)
      · exact .inr (hgo.mono fun e o => hround s _ o)
    · exact .inl (hend x hx)
  induction h with
  | start => exact hstart _
  | @stop s l h =>
    rcases hbody s l h with ⟨s' | a, hx⟩ | hgo
    · rcases hstart s' with ⟨a, ha⟩ | hgo
      · exact .inl ⟨a, by simpa using LoopTrace.next hx ha⟩
      · exact .inr (hgo.mono fun e o he => ⟨o, .next hx he⟩)
    · exact .inl ⟨a, .done hx⟩
    · exact .inr (hgo.mono fun e o => hround s _ o)
  | @next s s' l l' o h h' ih =>
    rcases ih ho with ⟨a, ha⟩ | hgo
    · exact .inl ⟨a, .next h ha⟩
    · exact .inr (hgo.mono fun e o he => ⟨o, by simpa using LoopTrace.next h he⟩)
  | done h => cases ho

/-- **No standstill**: at any moment of a run the program is at its end or there is a next event. -/
theorem Proper.goesOn {p : Prog ω κ ρ α} (h : p.Proper P Q) {l : List (Event ω κ ρ)}
    (ht : p.Trace l none) : (∃ a, p.Trace l (some a)) ∨ GoesOn p.Trace l := by
  induction p generalizing l with
  | ret a => cases ht.2
  | tell w =>
    rcases ht with ⟨rfl, -⟩ | ⟨-, ho⟩
    · exact .inr (.inl ⟨w, some (), .inr ⟨rfl, rfl⟩⟩)
    · cases ho
  | ask q =>
    rcases ht with ⟨rfl, -⟩ | ⟨r, -, ho⟩
    · exact .inr (.inr ⟨q, fun r => ⟨some r, .inr ⟨r, rfl, rfl⟩⟩⟩)
    · cases ho
  | bind p f ihp ihf =>
    -- the second part, after the events `l₁` of the first
    have hsecond : ∀ a l₁ l₂, p.Trace l₁ (some a) → (f a).Trace l₂ none →
        (∃ b, (p.bind f).Trace (l₁ ++ l₂) (some b)) ∨ GoesOn (p.bind f).Trace (l₁ ++ l₂) := by
      intro a l₁ l₂ h₁ h₂
      rcases ihf a (h.2 a) h₂ with ⟨b, hb⟩ | hgo
      · exact .inl ⟨b, .inr ⟨a, l₁, l₂, h₁, hb, rfl⟩⟩
      · exact .inr (hgo.mono fun e o he => ⟨o, .inr ⟨a, l₁, _, h₁, he, List.append_assoc _ _ _⟩⟩)
    rcases ht with ⟨ht, -⟩ | ⟨a, l₁, l₂, h₁, h₂, rfl⟩
    · rcases ihp h.1 ht with ⟨a, ha⟩ | hgo
      · obtain ⟨_ | b, hf⟩ := trace_nil (f a)
        · simpa using hsecond a l [] ha hf
        · exact .inl ⟨b, .inr ⟨a, l, [], ha, hf, (List.append_nil l).symm⟩⟩
      · refine .inr (hgo.mono fun e o he => ?_)
        cases o with
        | none => exact ⟨none, .inl ⟨he, rfl⟩⟩
        | some a =>
          obtain ⟨o, hf⟩ := trace_nil (f a)
          exact ⟨o, .inr ⟨a, _, [], he, hf, (List.append_nil _).symm⟩⟩
    · exact hsecond a l₁ l₂ h₁ h₂
  | loop body s ih =>
    exact loopTrace_goesOn (fun s => trace_nil (body s)) (fun s => (h s).2)
      (fun s l hl => ih s (h s).1 hl) ht rfl

end Proper

end Prog

/-- A state that follows the events, what it demands of every event, and the answers that the
device may give. -/
structure Monitor (ω κ ρ μ : Type) where
  step : μ → Event ω κ ρ → μ
  ok : μ → Event ω κ ρ → Prop
  may : μ → κ → ρ → Prop

namespace Monitor

variable (M : Monitor ω κ ρ μ)

/-- The state after some events. -/
def after (m : μ) (l : List (Event ω κ ρ)) : μ := l.foldl M.step m

/-- All answers are among those that the device may give. -/
def Allowed : μ → List (Event ω κ ρ) → Prop
  | _, [] => True
  | m, .tell w :: l => Allowed (M.step m (.tell w)) l
  | m, .ask q r :: l => M.may m q r ∧ Allowed (M.step m (.ask q r)) l

instance decidableAllowed [∀ m q r, Decidable (M.may m q r)] : ∀ m l, Decidable (M.Allowed m l)
  | _, [] => inferInstanceAs (Decidable True)
  | m, .tell w :: l => decidableAllowed (M.step m (.tell w)) l
  | m, .ask q r :: l =>
    have := decidableAllowed (M.step m (.ask q r)) l
    inferInstanceAs (Decidable (_ ∧ _))

/-- All events are as demanded. -/
def Accepts : μ → List (Event ω κ ρ) → Prop
  | _, [] => True
  | m, e :: l => M.ok m e ∧ Accepts (M.step m e) l

/-- The weakest precondition: from here on the program does what is demanded, and if it comes to its
end, `Q` holds of the result and the state.  A loop is given by an invariant. -/
def wp : {α : Type} → Prog ω κ ρ α → (α → μ → Prop) → μ → Prop
  | _, .ret a, Q, m => Q a m
  | _, .tell w, Q, m => M.ok m (.tell w) ∧ Q () (M.step m (.tell w))
  | _, .ask q, Q, m => ∀ r, M.may m q r → M.ok m (.ask q r) ∧ Q r (M.step m (.ask q r))
  | _, .bind p f, Q, m => wp p (fun a => wp (f a) Q) m
  | _, .loop (σ := σ) body s, Q, m => ∃ I : σ → μ → Prop, I s m ∧
      ∀ s m, I s m → wp (body s) (fun x m => x.elim (fun s => I s m) (fun a => Q a m)) m

variable {M}

@[simp] theorem after_nil (m : μ) : M.after m [] = m := rfl

@[simp] theorem after_cons (m : μ) (e : Event ω κ ρ) (l : List (Event ω κ ρ)) :
    M.after m (e :: l) = M.after (M.step m e) l := rfl

theorem after_append (m : μ) (l l' : List (Event ω κ ρ)) :
    M.after m (l ++ l') = M.after (M.after m l) l' :=
  List.foldl_append

theorem allowed_append {m : μ} {l l' : List (Event ω κ ρ)} :
    M.Allowed m (l ++ l') ↔ M.Allowed m l ∧ M.Allowed (M.after m l) l' := by
  induction l generalizing m with
  | nil => simp [Allowed]
  | cons e l ih => cases e <;> simp [Allowed, ih, and_assoc]

theorem accepts_append {m : μ} {l l' : List (Event ω κ ρ)} :
    M.Accepts m (l ++ l') ↔ M.Accepts m l ∧ M.Accepts (M.after m l) l' := by
  induction l generalizing m with
  | nil => simp [Accepts]
  | cons e l ih => simp [Accepts, ih, and_assoc]

theorem allowed_of_forall (h : ∀ m q r, M.may m q r) (m : μ) (l : List (Event ω κ ρ)) :
    M.Allowed m l := by
  induction l generalizing m with
  | nil => trivial
  | cons e l ih =>
    cases e with
    | tell w => exact ih _
    | ask q r => exact ⟨h m q r, ih _⟩

/-- What was demanded of an event was demanded in the state that the events before it lead to. -/
theorem Accepts.ok {m : μ} {l l' : List (Event ω κ ρ)} {e : Event ω κ ρ}
    (h : M.Accepts m (l ++ e :: l')) : M.ok (M.after m l) e :=
  (accepts_append.1 h).2.1

theorem wp_mono {p : Prog ω κ ρ α} {Q Q' : α → μ → Prop} (hQ : ∀ a m, Q a m → Q' a m) {m : μ}
    (h : M.wp p Q m) : M.wp p Q' m := by
  induction p generalizing m with
  | ret a => exact hQ a m h
  | tell w => exact ⟨h.1, hQ _ _ h.2⟩
  | ask q => exact fun r hr => ⟨(h r hr).1, hQ _ _ (h r hr).2⟩
  | bind p f ihp ihf => exact ihp (fun a m ha => ihf a hQ ha) h
  | loop body s ih =>
    obtain ⟨I, hI, hbody⟩ := h
    refine ⟨I, hI, fun s m hs => ih s (fun x m hx => ?_) (hbody s m hs)⟩
    cases x with
    | inl s => exact hx
    | inr a => exact hQ a m hx

/-- What holds of the rounds of a loop, from what holds of one round. -/
theorem loopTrace_sound {body : σ → List (Event ω κ ρ) → Option (σ ⊕ α) → Prop} {I : σ → μ → Prop}
    {Q : α → μ → Prop}
    (hbody : ∀ s m, I s m → ∀ l o, body s l o → M.Allowed m l → M.Accepts m l ∧
      ∀ x, o = some x → x.elim (fun s => I s (M.after m l)) (fun a => Q a (M.after m l)))
    {s : σ} {l : List (Event ω κ ρ)} {o : Option α} (h : LoopTrace body s l o) {m : μ} (hI : I s m)
    (hl : M.Allowed m l) : M.Accepts m l ∧ ∀ a, o = some a → Q a (M.after m l) := by
  induction h generalizing m with
  | start => exact ⟨trivial, by simp⟩
  | stop h => exact ⟨(hbody _ _ hI _ _ h hl).1, by simp⟩
  | next h h' ih =>
    obtain ⟨h1, h2⟩ := allowed_append.1 hl
    obtain ⟨hacc, hinv⟩ := hbody _ _ hI _ _ h h1
    obtain ⟨hacc', hQ⟩ := ih (hinv _ rfl) h2
    rw [after_append]
    exact ⟨accepts_append.2 ⟨hacc, hacc'⟩, hQ⟩
  | done h =>
    obtain ⟨hacc, hQ⟩ := hbody _ _ hI _ _ h hl
    exact ⟨hacc, fun a ha => by cases ha; exact hQ _ rfl⟩

/-- **Weakest preconditions are sound**: they hold of every trace with allowed answers. -/
theorem wp_sound {p : Prog ω κ ρ α} {Q : α → μ → Prop} {m : μ} (h : M.wp p Q m)
    {l : List (Event ω κ ρ)} {o : Option α} (ht : p.Trace l o) (hl : M.Allowed m l) :
    M.Accepts m l ∧ ∀ a, o = some a → Q a (M.after m l) := by
  induction p generalizing m l with
  | ret a =>
    obtain ⟨rfl, rfl⟩ := ht
    exact ⟨trivial, fun a ha => by cases ha; exact h⟩
  | tell w =>
    rcases ht with ⟨rfl, rfl⟩ | ⟨rfl, rfl⟩
    · exact ⟨trivial, by simp⟩
    · exact ⟨⟨h.1, trivial⟩, fun a ha => by cases ha; exact h.2⟩
  | ask q =>
    rcases ht with ⟨rfl, rfl⟩ | ⟨r, rfl, rfl⟩
    · exact ⟨trivial, by simp⟩
    · obtain ⟨hok, hQ⟩ := h r hl.1
      exact ⟨⟨hok, trivial⟩, fun a ha => by cases ha; exact hQ⟩
  | bind p f ihp ihf =>
    rcases ht with ⟨ht, rfl⟩ | ⟨a, l₁, l₂, h₁, h₂, rfl⟩
    · exact ⟨(ihp h ht hl).1, by simp⟩
    · obtain ⟨hl₁, hl₂⟩ := allowed_append.1 hl
      obtain ⟨hacc, hf⟩ := ihp h h₁ hl₁
      obtain ⟨hacc', hQ⟩ := ihf a (hf a rfl) h₂ hl₂
      rw [after_append]
      exact ⟨accepts_append.2 ⟨hacc, hacc'⟩, hQ⟩
  | loop body s ih =>
    obtain ⟨I, hI, hbody⟩ := h
    exact loopTrace_sound (fun s m hs l o hb hl => ih s (hbody s m hs) hb hl) ht hI hl

/-! ### Triples -/

section Triple

variable {ν : Type} {v : μ → ν} {P P' : ν → Prop} {Q Q' R : α → ν → Prop}

/-- From a state whose part `v` satisfies `P` the program does what is demanded, and if it comes to
its end, the part satisfies `Q`. -/
def Triple (M : Monitor ω κ ρ μ) (v : μ → ν) (P : ν → Prop) (p : Prog ω κ ρ α)
    (Q : α → ν → Prop) : Prop :=
  ∀ m, P (v m) → M.wp p (fun a m => Q a (v m)) m

namespace Triple

theorem pure (a : α) : M.Triple v (Q a) (Pure.pure a) Q := fun _ h => h

theorem bind {p : Prog ω κ ρ α} {f : α → Prog ω κ ρ β} {S : β → ν → Prop} (hp : M.Triple v P p R)
    (hf : ∀ a, M.Triple v (R a) (f a) S) : M.Triple v P (p >>= f) S :=
  fun m hm => wp_mono (fun a m h => hf a m h) (hp m hm)

theorem mono {p : Prog ω κ ρ α} (h : M.Triple v P p Q) (hP : ∀ s, P' s → P s)
    (hQ : ∀ a s, Q a s → Q' a s) : M.Triple v P' p Q' :=
  fun m hm => wp_mono (fun a m => hQ a (v m)) (h m (hP _ hm))

theorem pre {p : Prog ω κ ρ α} (h : M.Triple v P p Q) (hP : ∀ s, P' s → P s) :
    M.Triple v P' p Q :=
  h.mono hP fun _ _ => id

theorem ite {c : Prop} [Decidable c] {p q : Prog ω κ ρ α} (hp : c → M.Triple v P p Q)
    (hq : ¬ c → M.Triple v P q Q) : M.Triple v P (if c then p else q) Q := by
  split_ifs with hc
  · exact hp hc
  · exact hq hc

/-- A value of the state at the beginning may be given a name. -/
theorem named {γ : Type} {p : Prog ω κ ρ α} (f : ν → γ)
    (h : ∀ x, M.Triple v (fun s => P s ∧ f s = x) p Q) : M.Triple v P p Q :=
  fun m hm => h (f (v m)) m ⟨hm, rfl⟩

/-- A round of a loop after which it goes on. -/
theorem goOn {I : σ → ν → Prop} (s : σ) : M.Triple v (I s) (Pure.pure (Sum.inl s : σ ⊕ α))
    (fun x n => x.elim (fun s => I s n) (fun a => Q a n)) := fun _ h => h

/-- The last round of a loop. -/
theorem stop {I : σ → ν → Prop} (a : α) : M.Triple v (Q a) (Pure.pure (Sum.inr a : σ ⊕ α))
    (fun x n => x.elim (fun s => I s n) (fun a => Q a n)) := fun _ h => h

/-- A loop keeps what every round keeps. -/
theorem loop {body : σ → Prog ω κ ρ (σ ⊕ α)} {I : σ → ν → Prop}
    (h : ∀ s, M.Triple v (I s) (body s) (fun x n => x.elim (fun s => I s n) (fun a => Q a n)))
    (s : σ) : M.Triple v (I s) (Prog.loop body s) Q := by
  refine fun m hm => ⟨fun s m => I s (v m), hm, fun s m hs => wp_mono (fun x m hx => ?_) (h s m hs)⟩
  cases x <;> exact hx

end Triple

end Triple

end Monitor

end Dialog
