/-
# Programs whose transactions interleave

A script is a program over a shared state that takes one transaction after the
other.  Between two of them other scripts and an environment take theirs, so what a
script has read may be out of date, and a script that crashes takes no further one.

`Guarantees R G Q x P` is the rule of rely and guarantee: from the states of `P`, with
steps of `R` in between, every transaction of `x` is a step of `G`, and when `x`
returns, its value and the state satisfy `Q`.  There is one rule for each way to build
a script, and `run_guarantees` puts any number of scripts together.
-/

import DevFlow.Library.Durable
import DevFlow.Library.Runs
import Mathlib.Logic.Function.Basic

namespace Interleaving

variable {σ ε α β κ ι : Type}

/-- A program that is over, or whose next transaction waits until the state enables it,
changes the state and goes on with what it read. -/
inductive Script (σ ε α : Type)
  | ended (answer : Except ε α)
  | step (enabled : σ → Bool) (write : σ → σ) (next : σ → Script σ ε α)

namespace Script

/-- The statements after `x`. -/
def andThen : Script σ ε α → (α → Script σ ε β) → Script σ ε β
  | .ended (.ok a), f => f a
  | .ended (.error e), _ => .ended (.error e)
  | .step enabled write next, f => .step enabled write fun s => (next s).andThen f

instance : Monad (Script σ ε) where
  pure a := .ended (.ok a)
  bind := andThen

/-- A computation that does not touch the state. -/
def lift (x : Except ε α) : Script σ ε α :=
  .ended x

/-- `if condition: raise error`. -/
def raiseIf (condition : Prop) [Decidable condition] (error : ε) : Script σ ε Unit :=
  lift (if condition then .error error else .ok ())

/-- A transaction: what it answers is read before it writes. -/
def transact (write : σ → σ) (answer : σ → Except ε α) : Script σ ε α :=
  .step (fun _ => true) write fun s => .ended (answer s)

/-- A transaction that only reads. -/
def read (answer : σ → Except ε α) : Script σ ε α :=
  transact id answer

/-- A program that takes effect in one transaction. -/
def atomic (p : Durable.Prog σ ε α) : Script σ ε α :=
  transact (fun s => (p s).final) fun s => (p s).result

/-- A change that waits until it may be made. -/
def await (enabled : σ → Bool) (write : σ → σ) : Script σ ε Unit :=
  .step enabled write fun _ => .ended (.ok ())

/-- `try: x finally: write`. -/
def ensuring (write : σ → σ) : Script σ ε α → Script σ ε α
  | .ended answer => .step (fun _ => true) write fun _ => .ended answer
  | .step enabled write' next => .step enabled write' fun s => (next s).ensuring write

/-- `for a in l: f(a)`. -/
def each (f : β → Script σ ε Unit) : List β → Script σ ε Unit
  | [] => pure ()
  | b :: l => f b >>= fun _ => each f l

/-- The script on its own, to its end; there is none when it waits. -/
def alone : Script σ ε α → σ → Option (Except ε α × σ)
  | .ended answer, s => some (answer, s)
  | .step enabled write next, s =>
    if enabled s = true then (next s).alone (write s) else none

end Script

/-- A predicate that no step of the relation breaks. -/
def Stable (R : σ → σ → Prop) (P : σ → Prop) : Prop :=
  ∀ s t, R s t → P s → P t

theorem Stable.and {R : σ → σ → Prop} {P P' : σ → Prop} (h : Stable R P) (h' : Stable R P') :
    Stable R fun s => P s ∧ P' s :=
  fun s t hst hs => ⟨h s t hst hs.1, h' s t hst hs.2⟩

theorem Stable.true {R : σ → σ → Prop} : Stable R fun _ => True :=
  fun _ _ _ _ => trivial

/-- From states of `P` every transaction of the script is a step of `G`, whatever
steps of `R` others take in between, and a value it returns satisfies `Q`. -/
def Guarantees (R G : σ → σ → Prop) (Q : α → σ → Prop) : Script σ ε α → (σ → Prop) → Prop
  | .ended (.ok a), P => ∀ s, P s → Q a s
  | .ended (.error _), _ => True
  | .step enabled write next, P => ∀ s, P s → enabled s = true → G s (write s) ∧
      ∃ P', Stable R P' ∧ P' (write s) ∧ Guarantees R G Q (next s) P'

section Rules

variable {R G : σ → σ → Prop} {P P' : σ → Prop} {Q Q' : α → σ → Prop} {U : β → σ → Prop}
  {x : Script σ ε α} {f : α → Script σ ε β}

theorem Guarantees.strengthen (h : Guarantees R G Q x P') (hP : ∀ s, P s → P' s) :
    Guarantees R G Q x P := by
  cases x with
  | ended answer =>
    cases answer with
    | ok a => exact fun s hs => h s (hP s hs)
    | error e => trivial
  | step enabled write next => exact fun s hs henabled => h s (hP s hs) henabled

/-- **The rule of sequence**: what follows starts from the states that satisfy `Q`. -/
theorem Guarantees.bind (h : Guarantees R G Q x P) (hf : ∀ a, Guarantees R G U (f a) (Q a)) :
    Guarantees R G U (x >>= f) P := by
  change Guarantees R G U (x.andThen f) P
  induction x generalizing P with
  | ended answer =>
    cases answer with
    | ok a => exact (hf a).strengthen h
    | error e => trivial
  | step enabled write next ih =>
    intro s hs henabled
    obtain ⟨hstep, P', hstable, hwritten, hnext⟩ := h s hs henabled
    exact ⟨hstep, P', hstable, hwritten, ih s hnext⟩

theorem Guarantees.pure {a : α} (h : ∀ s, P s → Q a s) :
    Guarantees R G Q (Pure.pure a : Script σ ε α) P :=
  h

theorem Guarantees.lift {y : Except ε α} (h : ∀ a s, y = .ok a → P s → Q a s) :
    Guarantees R G Q (Script.lift y) P := by
  cases y with
  | ok a => exact fun s hs => h a s rfl hs
  | error e => trivial

theorem Guarantees.raiseIf {condition : Prop} [Decidable condition] {error : ε} :
    Guarantees R G (fun _ s => P s ∧ ¬condition) (Script.raiseIf condition error) P := by
  refine Guarantees.lift fun _ s hok hs => ⟨hs, fun hcondition => ?_⟩
  rw [if_pos hcondition] at hok
  cases hok

/-- **The rule of a transaction**: it is a step of `G`, and a stable predicate tells what
it answered. -/
theorem Guarantees.transact {write : σ → σ} {answer : σ → Except ε α}
    (hQ : ∀ a, Stable R (Q a))
    (h : ∀ s, P s → G s (write s) ∧ ∀ a, answer s = .ok a → Q a (write s)) :
    Guarantees R G Q (Script.transact write answer) P := by
  intro s hs _
  exact ⟨(h s hs).1, fun t => ∀ a, answer s = .ok a → Q a t,
    fun t u htu ht a ha => hQ a t u htu (ht a ha), (h s hs).2,
    Guarantees.lift fun a _ ha ht => ht a ha⟩

theorem Guarantees.read {answer : σ → Except ε α} (hrefl : ∀ s, G s s)
    (hQ : ∀ a, Stable R (Q a)) (h : ∀ s a, P s → answer s = .ok a → Q a s) :
    Guarantees R G Q (Script.read answer) P :=
  .transact hQ fun s hs => ⟨hrefl s, fun a ha => h s a hs ha⟩

theorem Guarantees.await {enabled : σ → Bool} {write : σ → σ} {V : σ → Prop}
    (hV : Stable R V) (h : ∀ s, P s → enabled s = true → G s (write s) ∧ V (write s)) :
    Guarantees R G (fun _ => V) (Script.await enabled write : Script σ ε Unit) P :=
  fun s hs henabled => ⟨(h s hs henabled).1, V, hV, (h s hs henabled).2, fun _ hv => hv⟩

/-- The last change is a step that keeps the promise. -/
theorem Guarantees.ensuring {write : σ → σ} (hQ : ∀ a, Stable R (Q a))
    (hG : ∀ s t, G s t → R s t) (hwrite : ∀ s, G s (write s)) (h : Guarantees R G Q x P) :
    Guarantees R G Q (x.ensuring write) P := by
  induction x generalizing P with
  | ended answer =>
    intro s hs _
    refine ⟨hwrite s, ?_⟩
    cases answer with
    | ok a => exact ⟨Q a, hQ a, hQ a s _ (hG _ _ (hwrite s)) (h s hs), fun _ hq => hq⟩
    | error e => exact ⟨fun _ => True, .true, trivial, trivial⟩
  | step enabled write' next ih =>
    intro s hs henabled
    obtain ⟨hstep, P', hstable, hwritten, hnext⟩ := h s hs henabled
    exact ⟨hstep, P', hstable, hwritten, ih s hnext⟩

/-- A loop whose body keeps a predicate. -/
theorem Guarantees.each {g : β → Script σ ε Unit} {l : List β}
    (h : ∀ b ∈ l, Guarantees R G (fun _ => P) (g b) P) :
    Guarantees R G (fun _ => P) (Script.each g l) P := by
  induction l with
  | nil => exact fun _ hs => hs
  | cons b l ih =>
    rw [List.forall_mem_cons] at h
    exact h.1.bind fun _ => ih h.2

end Rules

/-! ## Any number of scripts -/

/-- The shared state and the scripts as far as they have come; a script that crashed
is gone. -/
structure State (ι σ ε α : Type) where
  shared : σ
  scripts : ι → Option (Script σ ε α)

/-- One of the scripts takes its next transaction or crashes, or the environment
acts. -/
inductive Action (ι κ : Type)
  | advance (i : ι)
  | crash (i : ι)
  | interfere (k : κ)

/-- The steps; `crashed` is what becomes of the state when a script crashes. -/
def step [DecidableEq ι] (crashed : ι → σ → σ) (environment : κ → σ → σ → Prop) (s : State ι σ ε α)
    (action : Action ι κ) (_ : Unit) (t : State ι σ ε α) : Prop :=
  match action with
  | .advance i => ∃ enabled write next, s.scripts i = some (.step enabled write next) ∧
      enabled s.shared = true ∧
      t = ⟨write s.shared, Function.update s.scripts i (some (next s.shared))⟩
  | .crash i => t = ⟨crashed i s.shared, Function.update s.scripts i none⟩
  | .interfere k => environment k s.shared t.shared ∧ t.scripts = s.scripts

/-- Every script that is there keeps its promise from now on. -/
def Sound (R G : σ → σ → Prop) (Q : ι → α → σ → Prop) (s : State ι σ ε α) : Prop :=
  ∀ i x, s.scripts i = some x → ∃ P, Stable R P ∧ P s.shared ∧ Guarantees R G (Q i) x P

variable {crashed : ι → σ → σ} {environment : κ → σ → σ → Prop} {R G : σ → σ → Prop}
  {Q : ι → α → σ → Prop} {s t : State ι σ ε α} {action : Action ι κ} {o : Unit}

/-- A step of `R` by somebody else leaves a script sound. -/
theorem Sound.keep {u : σ} (h : Sound R G Q s) (hstep : R s.shared u)
    {scripts : ι → Option (Script σ ε α)} {i : ι} {x : Script σ ε α}
    (hsame : scripts i = s.scripts i) (hx : scripts i = some x) :
    ∃ P, Stable R P ∧ P u ∧ Guarantees R G (Q i) x P := by
  obtain ⟨P, hstable, hP, hguarantees⟩ := h i x (hsame ▸ hx)
  exact ⟨P, hstable, hstable _ _ hstep hP, hguarantees⟩

/-- A script that is over has returned what it promised. -/
theorem Sound.returned (h : Sound R G Q s) {i : ι} {a : α}
    (hover : s.scripts i = some (.ended (.ok a))) : Q i a s.shared := by
  obtain ⟨P, -, hP, hguarantees⟩ := h i _ hover
  exact hguarantees _ hP

variable [DecidableEq ι]

/-- **What a step does**: a transaction of a script is one of `G`, every step is one of
`R` if the environment's are, and the scripts stay sound. -/
theorem Sound.step (h : Sound R G Q s) (hG : ∀ u v, G u v → R u v)
    (hcrash : ∀ i u, R u (crashed i u))
    (henvironment : ∀ k, action = .interfere k → environment k s.shared t.shared →
      R s.shared t.shared)
    (hstep : Interleaving.step crashed environment s action o t) :
    (∀ i, action = .advance i → G s.shared t.shared) ∧ R s.shared t.shared ∧ Sound R G Q t := by
  cases action with
  | advance i =>
    obtain ⟨enabled, write, next, hscript, henabled, rfl⟩ := hstep
    obtain ⟨P, -, hP, hguarantees⟩ := h i _ hscript
    obtain ⟨hwrite, P', hstable, hwritten, hnext⟩ := hguarantees _ hP henabled
    have hR := hG _ _ hwrite
    refine ⟨fun _ _ => hwrite, hR, fun j x hj => ?_⟩
    by_cases hji : j = i
    · subst hji
      simp only [Function.update_self, Option.some.injEq] at hj
      subst hj
      exact ⟨P', hstable, hwritten, hnext⟩
    · exact h.keep hR (Function.update_of_ne hji _ _) hj
  | crash i =>
    subst hstep
    refine ⟨by rintro _ ⟨⟩, hcrash i _, fun j x hj => ?_⟩
    by_cases hji : j = i
    · subst hji
      simp at hj
    · exact h.keep (hcrash i _) (Function.update_of_ne hji _ _) hj
  | interfere k =>
    have hR := henvironment k rfl hstep.1
    exact ⟨by rintro _ ⟨⟩, hR, fun j x hj => h.keep hR (congrFun hstep.2 j) hj⟩

/-- **Scripts that keep their promises, in any order of transactions and crashes**: what no
step breaks holds in the end, and every value that was returned satisfies `Q`.  The
predicate may rest on what the scripts guarantee and on a condition `C` on the events. -/
theorem run_guarantees {es : List (Runs.Event (State ι σ ε α) (Action ι κ) Unit)} {I : σ → Prop}
    {C : Runs.Event (State ι σ ε α) (Action ι κ) Unit → Prop} (hG : ∀ u v, G u v → R u v)
    (hcrash : ∀ i u, R u (crashed i u)) (henvironment : ∀ k u v, environment k u v → R u v)
    (hI : ∀ e, C e → step crashed environment e.before e.input e.output e.after →
      R e.before.shared e.after.shared →
      (∀ i, e.input = .advance i → G e.before.shared e.after.shared) →
      I e.before.shared → I e.after.shared)
    (hrun : Runs.Run (step crashed environment) s es t) (hC : ∀ e ∈ es, C e) (hs : Sound R G Q s)
    (hI₀ : I s.shared) : Sound R G Q t ∧ I t.shared := by
  refine hrun.invariant_of_forall (I := fun u : State ι σ ε α => Sound R G Q u ∧ I u.shared)
    (P := C) (fun u action o v hu hevent hstep => ?_) hC ⟨hs, hI₀⟩
  obtain ⟨hadvance, hR, hsound⟩ := hu.1.step hG hcrash (fun k _ => henvironment k _ _) hstep
  exact ⟨hsound, hI ⟨u, action, o, v⟩ hevent hstep hR hadvance hu.2⟩

/-- A script that nobody interrupts is one of the runs. -/
theorem exists_run_alone {i : ι} {x : Script σ ε α} {answer : Except ε α} {u : σ}
    (hscript : s.scripts i = some x) (halone : x.alone s.shared = some (answer, u)) :
    ∃ es, Runs.Run (step crashed environment) s es
        ⟨u, Function.update s.scripts i (some (.ended answer))⟩ ∧
      ∀ e ∈ es, e.input = .advance i := by
  induction x generalizing s with
  | ended answer' =>
    obtain ⟨rfl, rfl⟩ := Prod.mk.inj (Option.some.inj halone)
    refine ⟨[], ?_, fun e he => absurd he List.not_mem_nil⟩
    rw [← hscript, Function.update_eq_self]
    exact .nil s
  | step enabled write next ih =>
    unfold Script.alone at halone
    split_ifs at halone with henabled
    have hstep : step crashed environment s (.advance i) ()
        ⟨write s.shared, Function.update s.scripts i (some (next s.shared))⟩ :=
      ⟨enabled, write, next, hscript, henabled, rfl⟩
    obtain ⟨es, hrun, hes⟩ := ih s.shared (s := ⟨write s.shared,
      Function.update s.scripts i (some (next s.shared))⟩) (Function.update_self ..) halone
    rw [Function.update_idem] at hrun
    exact ⟨_, .cons hstep hrun, List.forall_mem_cons.2 ⟨rfl, hes⟩⟩

end Interleaving
