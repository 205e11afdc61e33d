import FhssOtaRadio.Library.Machine
import Mathlib.Data.List.Chain

/-!
# Dialogues

A driver makes a call, reads the answer, and decides what to call next.  Such a program is a tree
(`Program`): at each node a call, and one branch for each answer.  What the other side answers is
not part of the program, so a program has many runs (`Run`), one for each way the dialogue can go;
a run may also be cut off before the program has returned.

The other side is described by a `World`: a state that follows the dialogue, the calls that may be
made in a state, and the answers that can come.  `World.Meets` computes what a program owes to a
world for a postcondition; its rules follow the program's structure, a loop is left to an invariant
(`meets_loop`), and `Meets.run` turns the result into a statement about every run.  A program can
be carried out in other calls (`Program.translate`), and keeps there what every single call keeps
(`meets_translate`).  Programs run one after the other make a `Session`.
-/

namespace Dialogue

open Machine

universe u v

variable {Call : Type u} {Answer : Call → Type v} {Call' : Type u} {Answer' : Call' → Type v}
  {α β : Type v} {ρ ρ' : Type*}

/-- A program that makes calls and reads their answers.  A loop is unrolled as often as it is
watched; a program whose loop has not come to an end by then is `unfinished`. -/
inductive Program (Call : Type u) (Answer : Call → Type v) (α : Type v) : Type (max u v)
  | ret (a : α)
  | ask (c : Call) (next : Answer c → Program Call Answer α)
  | unfinished

namespace Program

/-- One program, and then the one its result selects. -/
def bind : Program Call Answer α → (α → Program Call Answer β) → Program Call Answer β
  | ret a, f => f a
  | ask c next, f => ask c fun b => (next b).bind f
  | unfinished, _ => unfinished

instance instMonad : Monad (Program Call Answer) where
  pure := ret
  bind := bind

/-- The program that makes one call and returns the answer. -/
def call (c : Call) : Program Call Answer (Answer c) := ask c ret

/-- A loop, watched for at most `rounds` rounds: a round that returns `some a` leaves the loop. -/
def loop (body : Program Call Answer (Option α)) : ℕ → Program Call Answer α
  | 0 => unfinished
  | rounds + 1 => body.bind fun
      | some a => ret a
      | none => loop body rounds

/-- A loop with a state, watched for at most `rounds` rounds: a round goes on with a new state, or
it leaves the loop. -/
def iterate {σ : Type v} (body : σ → Program Call Answer (σ ⊕ α)) :
    ℕ → σ → Program Call Answer α
  | 0, _ => unfinished
  | rounds + 1, x => (body x).bind fun
      | .inl x' => iterate body rounds x'
      | .inr a => ret a

/-- A program carried out in other calls: `handler` says how each call is made there. -/
def translate (handler : (c : Call) → Program Call' Answer' (Answer c)) :
    Program Call Answer α → Program Call' Answer' α
  | ret a => ret a
  | ask c next => (handler c).bind fun b => translate handler (next b)
  | unfinished => unfinished

end Program

/-- A call together with its answer. -/
abbrev Event (Call : Type u) (Answer : Call → Type v) := (c : Call) × Answer c

/-- The runs of a program: the calls made and answered, and the result, `none` when the run was
cut off before the program returned. -/
inductive Run : Program Call Answer α → List (Event Call Answer) → Option α → Prop
  | cut (p : Program Call Answer α) : Run p [] none
  | ret (a : α) : Run (.ret a) [] (some a)
  | ask {c : Call} {next : Answer c → Program Call Answer α} {b : Answer c}
      {events : List (Event Call Answer)} {result : Option α} (h : Run (next b) events result) :
      Run (.ask c next) (⟨c, b⟩ :: events) result

/-- What is known of the other side of a dialogue. -/
structure World (Call : Type u) (Answer : Call → Type v) (ρ : Type*) where
  /-- The state that follows the dialogue. -/
  next : ρ → Event Call Answer → ρ
  /-- The calls that may be made in a state. -/
  Allowed : ρ → Call → Prop
  /-- The answers that can come in a state. -/
  Possible : ρ → Event Call Answer → Prop

namespace World

variable (W : World Call Answer ρ)

/-- The world as a machine that reads the events of a run. -/
def step (s : ρ) (e : Event Call Answer) : ρ × Unit := (W.next s e, ())

/-- Every answer of the run was possible when it came. -/
def Real (s : ρ) (events : List (Event Call Answer)) : Prop :=
  Guarded W.step W.Possible s events

/-- Every call of the run was allowed when it was made. -/
def Legal (s : ρ) (events : List (Event Call Answer)) : Prop :=
  Guarded W.step (fun s e => W.Allowed s e.1) s events

/-- The state of the world after a run. -/
def after (s : ρ) (events : List (Event Call Answer)) : ρ := finalState W.step s events

/-- What a program owes: its calls are allowed whatever the answers, and its result meets `Q`.
`Owed` is what a loop owes that has not come to an end: nothing when `Owed` is true, and to come to
an end when it is false. -/
def Meets (Owed : Prop) : Program Call Answer α → ρ → (α → ρ → Prop) → Prop
  | .ret a, s, Q => Q a s
  | .ask c next, s, Q =>
      W.Allowed s c ∧ ∀ b, W.Possible s ⟨c, b⟩ → Meets Owed (next b) (W.next s ⟨c, b⟩) Q
  | .unfinished, _, _ => Owed

end World

namespace World

variable {W : World Call Answer ρ} {Owed : Prop}

@[simp] lemma after_nil (s : ρ) : W.after s [] = s := rfl

@[simp] lemma after_cons (s : ρ) (e : Event Call Answer) (events : List (Event Call Answer)) :
    W.after s (e :: events) = W.after (W.next s e) events := rfl

lemma after_append (s : ρ) (events events' : List (Event Call Answer)) :
    W.after s (events ++ events') = W.after (W.after s events) events' :=
  finalState_append W.step s events events'

lemma legal_append {s : ρ} {events events' : List (Event Call Answer)} :
    W.Legal s (events ++ events') ↔ W.Legal s events ∧ W.Legal (W.after s events) events' :=
  guarded_append W.step

lemma real_append {s : ρ} {events events' : List (Event Call Answer)} :
    W.Real s (events ++ events') ↔ W.Real s events ∧ W.Real (W.after s events) events' :=
  guarded_append W.step

/-- In a world where every answer can come, every run is real. -/
lemma real_of_possible (h : ∀ s e, W.Possible s e) (s : ρ) (events : List (Event Call Answer)) :
    W.Real s events := by
  induction events generalizing s with
  | nil => trivial
  | cons e events ih => exact ⟨h s e, ih (W.next s e)⟩

/-- Where being allowed does not depend on the state, every call of a legal run is allowed. -/
lemma forall_of_legal {Ok : Call → Prop} (hok : ∀ s c, W.Allowed s c → Ok c) {s : ρ}
    {events : List (Event Call Answer)} (h : W.Legal s events) : ∀ e ∈ events, Ok e.1 := by
  induction events generalizing s with
  | nil => exact nofun
  | cons e events ih =>
    intro e' he'
    obtain rfl | he' := List.mem_cons.mp he'
    · exact hok s _ h.1
    · exact ih h.2 e' he'

@[simp] lemma meets_pure {a : α} {s : ρ} {Q : α → ρ → Prop} :
    W.Meets Owed (pure a) s Q ↔ Q a s := Iff.rfl

@[simp] lemma meets_call {c : Call} {s : ρ} {Q : Answer c → ρ → Prop} :
    W.Meets Owed (.call c) s Q ↔
      W.Allowed s c ∧ ∀ b, W.Possible s ⟨c, b⟩ → Q b (W.next s ⟨c, b⟩) := Iff.rfl

/-- A sequence owes that its first part leads where the second can go on. -/
lemma meets_bind' {p : Program Call Answer α} {f : α → Program Call Answer β} {s : ρ}
    {Q : β → ρ → Prop} :
    W.Meets Owed (p.bind f) s Q ↔ W.Meets Owed p s fun a s' => W.Meets Owed (f a) s' Q := by
  induction p generalizing s with
  | ret a => rfl
  | ask c next ih =>
    apply and_congr Iff.rfl
    exact forall_congr' fun b => imp_congr_right fun _ => ih b
  | unfinished => rfl

@[simp] lemma meets_bind {p : Program Call Answer α} {f : α → Program Call Answer β} {s : ρ}
    {Q : β → ρ → Prop} :
    W.Meets Owed (p >>= f) s Q ↔ W.Meets Owed p s fun a s' => W.Meets Owed (f a) s' Q :=
  meets_bind'

/-- What a program meets, it meets for every weaker postcondition. -/
lemma Meets.mono {p : Program Call Answer α} {s : ρ} {Q Q' : α → ρ → Prop}
    (h : W.Meets Owed p s Q) (himp : ∀ a s', Q a s' → Q' a s') : W.Meets Owed p s Q' := by
  induction p generalizing s with
  | ret a => exact himp a s h
  | ask c next ih => exact ⟨h.1, fun b hb => ih b (h.2 b hb)⟩
  | unfinished => exact h

/-- The loop rule: an invariant that every further round keeps. -/
lemma meets_loop (Inv : ρ → Prop) {body : Program Call Answer (Option α)} {Q : α → ρ → Prop}
    (hbody : ∀ s, Inv s → W.Meets True body s fun
      | some a, s' => Q a s'
      | none, s' => Inv s') {s : ρ} (h : Inv s) (rounds : ℕ) :
    W.Meets True (.loop body rounds) s Q := by
  induction rounds generalizing s with
  | zero => trivial
  | succ rounds ih =>
    rw [Program.loop, meets_bind']
    apply (hbody s h).mono
    intro result s' hresult
    cases result with
    | some a => exact hresult
    | none => exact ih hresult

/-- The loop rule for a loop with a state. -/
lemma meets_iterate {σ : Type v} (Inv : σ → ρ → Prop) {body : σ → Program Call Answer (σ ⊕ α)}
    {Q : α → ρ → Prop}
    (hbody : ∀ x s, Inv x s → W.Meets True (body x) s fun
      | .inl x', s' => Inv x' s'
      | .inr a, s' => Q a s') {x : σ} {s : ρ} (h : Inv x s) (rounds : ℕ) :
    W.Meets True (.iterate body rounds x) s Q := by
  induction rounds generalizing x s with
  | zero => trivial
  | succ rounds ih =>
    rw [Program.iterate, meets_bind']
    apply (hbody x s h).mono
    rintro (x' | a) s' hresult
    · exact ih hresult
    · exact hresult

/-- **What a program meets holds of each of its runs**: as long as the answers are possible the
calls are allowed, and the result meets the postcondition. -/
theorem Meets.run {p : Program Call Answer α} {s : ρ} {Q : α → ρ → Prop}
    (h : W.Meets Owed p s Q) {events : List (Event Call Answer)} {result : Option α}
    (hrun : Run p events result) (hreal : W.Real s events) :
    W.Legal s events ∧ ∀ a, result = some a → Q a (W.after s events) := by
  induction hrun generalizing s with
  | cut p => exact ⟨trivial, fun a ha => nomatch ha⟩
  | ret a =>
    refine ⟨trivial, fun a' ha' => ?_⟩
    obtain rfl := Option.some.inj ha'
    exact h
  | ask _ ih =>
    obtain ⟨hpossible, hreal'⟩ := hreal
    obtain ⟨hlegal, hresult⟩ := ih (h.2 _ hpossible) hreal'
    exact ⟨⟨h.1, hlegal⟩, hresult⟩

/-- **Carrying out a program in other calls**: what every single call keeps, the program keeps. -/
theorem meets_translate {W' : World Call' Answer' ρ'} (Inv : ρ' → Prop)
    {handler : (c : Call) → Program Call' Answer' (Answer c)}
    (hhandler : ∀ c s, Inv s → W'.Meets Owed (handler c) s fun _ s' => Inv s') (howed : Owed)
    {p : Program Call Answer α} {s : ρ'} (h : Inv s) :
    W'.Meets Owed (p.translate handler) s fun _ s' => Inv s' := by
  induction p generalizing s with
  | ret a => exact h
  | ask c next ih =>
    rw [Program.translate, meets_bind']
    apply (hhandler c s h).mono
    exact fun b s' hs' => ih b hs'
  | unfinished => exact howed

end World

/-- The runs of a sequence: the first part was cut off, or it returned and the second part ran. -/
lemma Run.of_bind {p : Program Call Answer α} {f : α → Program Call Answer β}
    {events : List (Event Call Answer)} {result : Option β} (h : Run (p.bind f) events result) :
    (result = none ∧ Run p events none) ∨
      ∃ a events₁ events₂, events = events₁ ++ events₂ ∧ Run p events₁ (some a) ∧
        Run (f a) events₂ result := by
  induction p generalizing events with
  | ret a => exact .inr ⟨a, [], events, rfl, .ret a, h⟩
  | ask c next ih =>
    cases h with
    | cut => exact .inl ⟨rfl, .cut _⟩
    | ask h =>
      obtain ⟨rfl, hcut⟩ | ⟨a, events₁, events₂, rfl, hfirst, hsecond⟩ := ih _ h
      · exact .inl ⟨rfl, .ask hcut⟩
      · exact .inr ⟨a, _ :: events₁, events₂, rfl, .ask hfirst, hsecond⟩
  | unfinished =>
    cases h with
    | cut => exact .inl ⟨rfl, .cut _⟩

/-- **The runs of a translated program**: a run of the program itself with each of its calls
carried out by the handler, but for the last one, which may be cut off half-way. -/
theorem Run.of_translate {handler : (c : Call) → Program Call' Answer' (Answer c)}
    {p : Program Call Answer α} {events : List (Event Call' Answer')} {result : Option α}
    (h : Run (p.translate handler) events result) :
    ∃ (parts : List (Event Call Answer × List (Event Call' Answer')))
      (rest : List (Event Call' Answer')),
      events = (parts.map Prod.snd).flatten ++ rest ∧
      (∀ part ∈ parts, Run (handler part.1.1) part.2 (some part.1.2)) ∧
      Run p (parts.map Prod.fst) result ∧
      (rest ≠ [] → result = none ∧ ∃ c, Run (handler c) rest none ∧
        ∀ b, Run p (parts.map Prod.fst ++ [⟨c, b⟩]) none) := by
  induction p generalizing events with
  | ret a =>
    cases h with
    | cut => exact ⟨[], [], rfl, by simp, .cut _, by simp⟩
    | ret => exact ⟨[], [], rfl, by simp, .ret a, by simp⟩
  | ask c next ih =>
    rw [Program.translate] at h
    obtain ⟨rfl, hcut⟩ | ⟨b, events₁, events₂, rfl, hcall, hrest⟩ := Run.of_bind h
    · exact ⟨[], events, rfl, by simp, .cut _, fun _ => ⟨rfl, c, hcut, fun b => .ask (.cut _)⟩⟩
    · obtain ⟨parts, rest, rfl, hparts, hrun, hlast⟩ := ih b hrest
      refine ⟨(⟨c, b⟩, events₁) :: parts, rest, by simp, ?_, .ask hrun, fun hne => ?_⟩
      · intro part hpart
        obtain rfl | hpart := List.mem_cons.mp hpart
        · exact hcall
        · exact hparts part hpart
      · obtain ⟨hnone, c', hcut, hpending⟩ := hlast hne
        exact ⟨hnone, c', hcut, fun b' => .ask (hpending b')⟩
  | unfinished =>
    cases h with
    | cut => exact ⟨[], [], rfl, by simp, .cut _, by simp⟩

/-! ## Programs that can fail -/

/-- A program that may fail with an error instead of returning a result. -/
abbrev Fallible (ε : Type v) (Call : Type u) (Answer : Call → Type v) :=
  ExceptT ε (Program Call Answer)

namespace Fallible

variable {ε : Type v}

/-- A call that cannot fail. -/
def call (c : Call) : Fallible ε Call Answer (Answer c) := ExceptT.lift (.call c)

/-- A program that is run for its calls only: the others go on even if it fails. -/
def ignore (x : Fallible ε Call Answer α) : Fallible ε Call Answer PUnit :=
  ExceptT.mk (x.run.bind fun _ => .ret (.ok PUnit.unit))

/-- A loop whose rounds may fail; a round that fails leaves the loop with its error. -/
def loop (body : Fallible ε Call Answer (Option α)) (rounds : ℕ) : Fallible ε Call Answer α :=
  ExceptT.mk (Program.loop (body.run.bind fun
    | .ok none => .ret none
    | .ok (some a) => .ret (some (.ok a))
    | .error e => .ret (some (.error e))) rounds)

end Fallible

namespace World

variable {ε : Type v} {W : World Call Answer ρ} {Owed : Prop}

/-- What a program that can fail owes: `Q` of its result, `E` of its error. -/
def Fulfils (W : World Call Answer ρ) (Owed : Prop) (x : Fallible ε Call Answer α) (s : ρ)
    (Q : α → ρ → Prop) (E : ε → ρ → Prop) : Prop :=
  W.Meets Owed x.run s fun
    | .ok a, s' => Q a s'
    | .error e, s' => E e s'

variable {s : ρ} {E : ε → ρ → Prop}

@[simp] lemma fulfils_pure {a : α} {Q : α → ρ → Prop} :
    W.Fulfils Owed (pure a : Fallible ε Call Answer α) s Q E ↔ Q a s := Iff.rfl

@[simp] lemma fulfils_throw {e : ε} {Q : α → ρ → Prop} :
    W.Fulfils Owed (throw e : Fallible ε Call Answer α) s Q E ↔ E e s := Iff.rfl

@[simp] lemma fulfils_call {c : Call} {Q : Answer c → ρ → Prop} :
    W.Fulfils Owed (Fallible.call c : Fallible ε Call Answer (Answer c)) s Q E ↔
      W.Allowed s c ∧ ∀ b, W.Possible s ⟨c, b⟩ → Q b (W.next s ⟨c, b⟩) := Iff.rfl

/-- In a sequence the second part runs when the first one has not failed. -/
@[simp] lemma fulfils_bind {x : Fallible ε Call Answer α} {f : α → Fallible ε Call Answer β}
    {Q : β → ρ → Prop} :
    W.Fulfils Owed (x >>= f) s Q E ↔
      W.Fulfils Owed x s (fun a s' => W.Fulfils Owed (f a) s' Q E) E := by
  refine meets_bind'.trans ?_
  unfold Fulfils
  constructor
  · intro h
    apply h.mono
    rintro (e | a) s' h'
    · exact h'
    · exact h'
  · intro h
    apply h.mono
    rintro (e | a) s' h'
    · exact h'
    · exact h'

@[simp] lemma fulfils_ignore {x : Fallible ε Call Answer α} {Q : PUnit → ρ → Prop} :
    W.Fulfils Owed (Fallible.ignore x) s Q E ↔
      W.Fulfils Owed x s (fun _ s' => Q PUnit.unit s') fun _ s' => Q PUnit.unit s' := by
  refine meets_bind'.trans ?_
  unfold Fulfils
  constructor
  · intro h
    apply h.mono
    rintro (e | a) s' h'
    · exact h'
    · exact h'
  · intro h
    apply h.mono
    rintro (e | a) s' h'
    · exact h'
    · exact h'

/-- A handler runs from where the error arose. -/
@[simp] lemma fulfils_tryCatch {x : Fallible ε Call Answer α}
    {handler : ε → Fallible ε Call Answer α} {Q : α → ρ → Prop} :
    W.Fulfils Owed (tryCatch x handler) s Q E ↔
      W.Fulfils Owed x s Q fun e s' => W.Fulfils Owed (handler e) s' Q E := by
  refine meets_bind'.trans ?_
  unfold Fulfils
  constructor
  · intro h
    apply h.mono
    rintro (e | a) s' h'
    · exact h'
    · exact h'
  · intro h
    apply h.mono
    rintro (e | a) s' h'
    · exact h'
    · exact h'

lemma Fulfils.mono {x : Fallible ε Call Answer α} {Q Q' : α → ρ → Prop} {E' : ε → ρ → Prop}
    (h : W.Fulfils Owed x s Q E) (hQ : ∀ a s', Q a s' → Q' a s') (hE : ∀ e s', E e s' → E' e s') :
    W.Fulfils Owed x s Q' E' := by
  apply Meets.mono h
  rintro (e | a) s' h'
  · exact hE e s' h'
  · exact hQ a s' h'

/-- The loop rule for rounds that may fail. -/
lemma fulfils_loop (Inv : ρ → Prop) {body : Fallible ε Call Answer (Option α)} {Q : α → ρ → Prop}
    (hbody : ∀ s, Inv s → W.Fulfils True body s (fun
      | some a, s' => Q a s'
      | none, s' => Inv s') E) {s : ρ} (h : Inv s) (rounds : ℕ) :
    W.Fulfils True (Fallible.loop body rounds) s Q E := by
  refine meets_loop Inv (fun s hs => ?_) h rounds
  rw [meets_bind']
  apply Meets.mono (hbody s hs)
  rintro (e | a) s' h'
  · exact h'
  · cases a with
    | none => exact h'
    | some a => exact h'

/-! ### Invariants -/

/-- A call is allowed in the invariant and keeps it. -/
def Keeps (W : World Call Answer ρ) (Inv : ρ → Prop) (c : Call) : Prop :=
  ∀ s, Inv s → W.Allowed s c ∧ ∀ answer, W.Possible s ⟨c, answer⟩ → Inv (W.next s ⟨c, answer⟩)

/-- A program keeps an invariant, whether it fails or not. -/
def KeptBy (W : World Call Answer ρ) (Inv : ρ → Prop) (x : Fallible ε Call Answer α) : Prop :=
  ∀ s, Inv s → W.Fulfils True x s (fun _ s' => Inv s') fun _ s' => Inv s'

variable {Inv : ρ → Prop}

/-- What every call of a run keeps, the run keeps, also when it was cut off. -/
lemma after_of_keeps (Inv : ρ → Prop) {s : ρ} {events : List (Event Call Answer)} (hs : Inv s)
    (h : ∀ e ∈ events, W.Keeps Inv e.1) (hreal : W.Real s events) : Inv (W.after s events) := by
  induction events generalizing s with
  | nil => exact hs
  | cons e events ih =>
    refine ih ((h e List.mem_cons_self s hs).2 e.2 hreal.1) (fun e' he' => ?_) hreal.2
    exact h e' (List.mem_cons_of_mem _ he')

lemma keptBy_pure (a : α) :
    W.KeptBy Inv (pure a : Fallible ε Call Answer α) := fun _ h => h

lemma keptBy_throw (e : ε) :
    W.KeptBy Inv (throw e : Fallible ε Call Answer α) := fun _ h => h

lemma KeptBy.bind {x : Fallible ε Call Answer α} {f : α → Fallible ε Call Answer β}
    (hx : W.KeptBy Inv x) (hf : ∀ a, W.KeptBy Inv (f a)) : W.KeptBy Inv (x >>= f) := by
  intro s h
  rw [fulfils_bind]
  exact (hx s h).mono (fun a s' h' => hf a s' h') fun _ _ h' => h'

lemma KeptBy.ignore {x : Fallible ε Call Answer α} (hx : W.KeptBy Inv x) :
    W.KeptBy Inv (Fallible.ignore x) := by
  intro s h
  rw [fulfils_ignore]
  exact hx s h

lemma keptBy_call {c : Call} (h : W.Keeps Inv c) :
    W.KeptBy Inv (Fallible.call c : Fallible ε Call Answer (Answer c)) :=
  fun s hs => h s hs

end World

/-! ## Sessions -/

section Session

variable {Op : Type*}

/-- One operation of a session: how far its loops were watched, and how its run went. -/
structure Turn (Op : Type*) (Call : Type u) (Answer : Call → Type v) (α : Type v) where
  op : Op
  rounds : ℕ
  events : List (Event Call Answer)
  result : Option α

/-- Operations run one after the other; one that was cut off is followed by one that recovers. -/
structure Session (program : Op → ℕ → Program Call Answer α) (Recovers : Op → Prop)
    (turns : List (Turn Op Call Answer α)) : Prop where
  run : ∀ turn ∈ turns, Run (program turn.op turn.rounds) turn.events turn.result
  recovers : turns.IsChain fun turn next => turn.result = none → Recovers next.op

variable {program : Op → ℕ → Program Call Answer α} {Recovers : Op → Prop}

/-- **The calls of a session are allowed**, when every operation that starts in the invariant ends
in it and those that recover may start anywhere. -/
theorem Session.legal {W : World Call Answer ρ} (Inv : ρ → Prop)
    (hop : ∀ op rounds s, Inv s ∨ Recovers op →
      W.Meets True (program op rounds) s fun _ s' => Inv s')
    {turns : List (Turn Op Call Answer α)} (h : Session program Recovers turns) {s : ρ}
    (hs : Inv s ∨ ∀ turn ∈ turns.head?, Recovers turn.op)
    (hreal : W.Real s (turns.flatMap Turn.events)) :
    W.Legal s (turns.flatMap Turn.events) ∧
      ∀ turn ∈ turns.getLast?, turn.result ≠ none →
        Inv (W.after s (turns.flatMap Turn.events)) := by
  induction turns generalizing s with
  | nil => exact ⟨trivial, nofun⟩
  | cons turn turns ih =>
    rw [List.flatMap_cons, World.real_append] at hreal
    have hstart : Inv s ∨ Recovers turn.op := hs.imp_right fun h => h turn rfl
    obtain ⟨hlegal, hresult⟩ :=
      (hop turn.op turn.rounds s hstart).run (h.run turn List.mem_cons_self) hreal.1
    have hnext : Inv (W.after s turn.events) ∨ ∀ next ∈ turns.head?, Recovers next.op := by
      rcases hturn : turn.result with _ | a
      · refine .inr fun next hnext => ?_
        obtain ⟨rest, rfl⟩ := List.head?_eq_some_iff.mp hnext
        exact (List.isChain_cons_cons.mp h.recovers).1 hturn
      · exact .inl (hresult a hturn)
    have hrest : Session program Recovers turns :=
      ⟨fun t ht => h.run t (List.mem_cons_of_mem _ ht), List.isChain_of_isChain_cons h.recovers⟩
    obtain ⟨hlegal', hlast⟩ := ih hrest hnext hreal.2
    rw [List.flatMap_cons, World.legal_append, World.after_append]
    refine ⟨⟨hlegal, hlegal'⟩, fun last hmem hne => ?_⟩
    cases turns with
    | nil =>
      obtain rfl := Option.some.inj hmem
      obtain ⟨a, ha⟩ := Option.ne_none_iff_exists'.mp hne
      exact hresult a ha
    | cons next rest => exact hlast last hmem hne

end Session

end Dialogue
