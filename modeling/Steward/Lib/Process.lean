import Mathlib.Tactic.Common

/-!
# Processes that make calls

A process is done, or makes a call and goes on with the reply. A contract says what it may do: a
private note of the calls and replies so far, the calls allowed at a note, and the replies it may
rely on. A process that meets a contract makes only allowed calls as long as the replies are the
expected ones. The rules follow the structure of a program: return, sequence, choice and loops over
lists.
-/

/-- A program of calls `c : C`, each answered by an `R c`. -/
inductive Process (C : Type) (R : C → Type) (α : Type)
  | done (a : α)
  | call (c : C) (next : R c → Process C R α)

namespace Process

variable {C : Type} {R : C → Type} {α β γ : Type}

def andThen : Process C R α → (α → Process C R β) → Process C R β
  | done a, f => f a
  | call c next, f => call c fun r => (next r).andThen f

instance : Monad (Process C R) where
  pure := done
  bind := andThen

def request (c : C) : Process C R (R c) := call c done

@[simp] theorem pure_eq (a : α) : (pure a : Process C R α) = done a := rfl

@[simp] theorem bind_eq (p : Process C R α) (f : α → Process C R β) : p >>= f = p.andThen f := rfl

@[simp] theorem done_andThen (a : α) (f : α → Process C R β) : (done a).andThen f = f a := rfl

def fold (f : β → α → Process C R β) : β → List α → Process C R β
  | b, [] => done b
  | b, a :: as => (f b a).andThen fun b' => fold f b' as

def each (f : α → Process C R Unit) (as : List α) : Process C R Unit := fold (fun _ a => f a) () as

/-- A process that can fail. A failure ends it. -/
def Fallible (ε C : Type) (R : C → Type) (α : Type) := Process C R (Except ε α)

namespace Fallible

variable {ε : Type}

def next (f : α → Fallible ε C R β) : Except ε α → Process C R (Except ε β)
  | .ok a => f a
  | .error e => done (.error e)

instance : Monad (Fallible ε C R) where
  pure a := done (.ok a)
  bind p f := andThen p (next f)

def fail (e : ε) : Fallible ε C R α := done (.error e)

def request (c : C) : Fallible ε C R (R c) := call c fun r => done (.ok r)

def lift (p : Process C R α) : Fallible ε C R α := andThen p fun a => done (.ok a)

def attempt (p : Fallible ε C R α) : Fallible ε C R (Except ε α) := lift p

def each (f : α → Fallible ε C R Unit) : List α → Fallible ε C R Unit
  | [] => done (.ok ())
  | a :: as => f a >>= fun _ => each f as

end Fallible

def embed {C' : Type} {R' : C' → Type} (e : C → C') (reply : ∀ c, R' (e c) → R c) :
    Process C R α → Process C' R' α
  | done a => done a
  | call c next => call (e c) fun r => (next (reply c r)).embed e reply

/-! ## The calls of a process -/

/-- Every call the process can make, whatever the replies, is one of these. -/
def Only (A : C → Prop) : Process C R α → Prop
  | done _ => True
  | call c next => A c ∧ ∀ r, (next r).Only A

variable {p : Process C R α}

section

variable {A : C → Prop}

theorem only_done (a : α) : (done a : Process C R α).Only A := trivial

theorem only_request {c : C} (h : A c) : (request c : Process C R (R c)).Only A :=
  ⟨h, fun _ => trivial⟩

theorem Only.andThen {f : α → Process C R β} (h : p.Only A)
    (hf : ∀ a, (f a).Only A) : (p.andThen f).Only A := by
  induction p with
  | done a => exact hf a
  | call c next ih => exact ⟨h.1, fun r => ih r (h.2 r)⟩

theorem Only.mono {B : C → Prop} (h : p.Only A) (hAB : ∀ c, A c → B c) : p.Only B := by
  induction p with
  | done a => trivial
  | call c next ih => exact ⟨hAB c h.1, fun r => ih r (h.2 r)⟩

theorem only_fold {f : β → α → Process C R β} {as : List α} (hf : ∀ a ∈ as, ∀ b, (f b a).Only A)
    (b : β) : (fold f b as).Only A := by
  induction as generalizing b with
  | nil => trivial
  | cons a as ih =>
    refine (hf a (.head _) b).andThen fun b' => ?_
    exact ih (fun a' ha' => hf a' (.tail _ ha')) b'

theorem only_each {f : α → Process C R Unit} {as : List α} (hf : ∀ a ∈ as, (f a).Only A) :
    (each f as).Only A :=
  only_fold (fun a ha _ => hf a ha) ()

theorem only_embed {C' : Type} {R' : C' → Type} {e : C → C'} {reply : ∀ c, R' (e c) → R c}
    {A : C' → Prop} (h : ∀ c, A (e c)) (p : Process C R α) : (p.embed e reply).Only A := by
  induction p with
  | done a => trivial
  | call c next ih => exact ⟨h c, fun r => ih _⟩

namespace Fallible

variable {ε : Type}

@[simp] theorem only_pure (a : α) : Only A (pure a : Fallible ε C R α) := trivial

theorem only_fail (e : ε) : Only A (fail e : Fallible ε C R α) := trivial

theorem only_request {c : C} (h : A c) : Only A (request c : Fallible ε C R (R c)) :=
  ⟨h, fun _ => trivial⟩

theorem only_lift (h : p.Only A) : Only A (lift p : Fallible ε C R α) :=
  Only.andThen h fun _ => trivial

theorem only_attempt {p : Fallible ε C R α} (h : Only A p) : Only A (attempt p) := only_lift h

end Fallible

@[simp] theorem Only.bind {ε : Type} {p : Fallible ε C R α} {f : α → Fallible ε C R β}
    (h : Only A p) (hf : ∀ a, Only A (f a)) : Only A (p >>= f : Fallible ε C R β) :=
  h.andThen fun r => by
    cases r with
    | ok a => exact hf a
    | error e => trivial

end

/-! ## Contracts -/

/-- What a process may do: how its note grows with each call and reply, the calls allowed at a note,
and the replies it may rely on there. -/
structure Contract (γ : Type) (C : Type) (R : C → Type) where
  next : γ → (c : C) → R c → γ
  allows : γ → C → Prop
  expects : γ → (c : C) → R c → Prop

/-- From this note on, the process makes allowed calls only, and its result satisfies the
postcondition. -/
def Meets (K : Contract γ C R) (Q : γ → α → Prop) : Process C R α → γ → Prop
  | done a, g => Q g a
  | call c next, g => K.allows g c ∧ ∀ r, K.expects g c r → (next r).Meets K Q (K.next g c r)

section

variable {K : Contract γ C R} {Q : γ → α → Prop} {g : γ}

theorem meets_request_andThen {c : C} {f : R c → Process C R α} (hallows : K.allows g c)
    (h : ∀ r, K.expects g c r → (f r).Meets K Q (K.next g c r)) :
    ((request c).andThen f).Meets K Q g :=
  ⟨hallows, h⟩

theorem Meets.mono {Q' : γ → α → Prop} (h : p.Meets K Q g) (hQ : ∀ g a, Q g a → Q' g a) :
    p.Meets K Q' g := by
  induction p generalizing g with
  | done a => exact hQ g a h
  | call c next ih => exact ⟨h.1, fun r hr => ih r (h.2 r hr)⟩

theorem Meets.andThen {f : α → Process C R β} {Q' : γ → β → Prop}
    (h : p.Meets K Q g) (hf : ∀ g a, Q g a → (f a).Meets K Q' g) : (p.andThen f).Meets K Q' g := by
  induction p generalizing g with
  | done a => exact hf g a h
  | call c next ih => exact ⟨h.1, fun r hr => ih r (h.2 r hr)⟩

/-- A loop with an invariant of the note and the carried value. -/
theorem meets_fold {f : β → α → Process C R β} {I : γ → β → Prop} {as : List α} {b : β} (hI : I g b)
    (hf : ∀ a ∈ as, ∀ g b, I g b → (f b a).Meets K I g) : (fold f b as).Meets K I g := by
  induction as generalizing g b with
  | nil => exact hI
  | cons a as ih =>
    refine (hf a (.head _) g b hI).andThen fun g' b' hI' => ?_
    exact ih hI' fun a' ha' => hf a' (.tail _ ha')

namespace Fallible

variable {ε : Type}

theorem meets_bind {p : Fallible ε C R α} {f : α → Fallible ε C R β} {Q : γ → Except ε α → Prop}
    {Q' : γ → Except ε β → Prop} (h : Meets K Q p g)
    (hok : ∀ g a, Q g (.ok a) → Meets K Q' (f a) g)
    (herror : ∀ g e, Q g (.error e) → Q' g (.error e)) :
    Meets K Q' (p >>= f : Fallible ε C R β) g :=
  Meets.andThen h fun g r hr => by
    cases r with
    | ok a => exact hok g a hr
    | error e => exact herror g e hr

end Fallible

end

variable {K : Contract γ C R}

/-- What expected replies to the calls of a process preserve holds where it ends. -/
theorem Only.meets_invariant {A : C → Prop} {I : γ → Prop} {g : γ} (h : p.Only A)
    (hallows : ∀ g c, I g → A c → K.allows g c)
    (hnext : ∀ g c r, I g → A c → K.expects g c r → I (K.next g c r)) (hg : I g) :
    p.Meets K (fun g' _ => I g') g := by
  induction p generalizing g with
  | done a => exact hg
  | call c next ih => exact ⟨hallows g c hg h.1, fun r hr => ih r (h.2 r) (hnext g c r hg h.1 hr)⟩

theorem Only.meets {A : C → Prop} (h : p.Only A)
    (hA : ∀ g c, A c → K.allows g c) (g : γ) : p.Meets K (fun _ _ => True) g :=
  h.meets_invariant (fun g c _ => hA g c) (fun _ _ _ _ _ _ => trivial) trivial

/-! ## Running -/

section

variable {σ ι : Type} (answer : σ → ι → (c : C) → R c × σ)

/-- Let a process make calls, one for each move of the environment. Without a result, the moves ran
out and the process ended where it was. -/
def run : Process C R α → σ → List ι → Option α × σ
  | done a, s, _ => (some a, s)
  | call _ _, s, [] => (none, s)
  | call c next, s, i :: is => run (next (answer s i c).1) (answer s i c).2 is

/-- The replies of a run are the ones a contract lets the process rely on. -/
def Expected (K : Contract γ C R) : Process C R α → γ → σ → List ι → Prop
  | done _, _, _, _ => True
  | call _ _, _, _, [] => True
  | call c next, g, s, i :: is =>
    K.expects g c (answer s i c).1 ∧
      Expected K (next (answer s i c).1) (K.next g c (answer s i c).1) (answer s i c).2 is

instance decidableExpected {K : Contract γ C R} [h : ∀ g c r, Decidable (K.expects g c r)] :
    (p : Process C R α) → (g : γ) → (s : σ) → (is : List ι) → Decidable (p.Expected answer K g s is)
  | done _, _, _, _ => isTrue trivial
  | call _ _, _, _, [] => isTrue trivial
  | call c next, g, s, i :: is =>
    @instDecidableAnd _ _ (h g c (answer s i c).1)
      (decidableExpected (next (answer s i c).1) (K.next g c (answer s i c).1) (answer s i c).2 is)

variable {answer}

/-- What allowed calls preserve, a process that meets its contract preserves wherever it ends, and
the postcondition holds of its result. -/
theorem Meets.run_invariant {Q : γ → α → Prop} {I : γ → σ → Prop} {g : γ} {s : σ} {is : List ι}
    (h : p.Meets K Q g)
    (hexpected : p.Expected answer K g s is ∨ ∀ g s i c, I g s → K.expects g c (answer s i c).1)
    (hstep : ∀ g s i c, I g s → K.allows g c → K.expects g c (answer s i c).1 →
      I (K.next g c (answer s i c).1) (answer s i c).2)
    (hs : I g s) :
    ∃ g', I g' (p.run answer s is).2 ∧ ∀ a, (p.run answer s is).1 = some a → Q g' a := by
  induction p generalizing g s is with
  | done a =>
    refine ⟨g, hs, fun b hb => ?_⟩
    cases hb
    exact h
  | call c next ih =>
    cases is with
    | nil => exact ⟨g, hs, fun b hb => by cases hb⟩
    | cons i is =>
      have hreply : K.expects g c (answer s i c).1 := hexpected.elim And.left fun h => h g s i c hs
      exact ih _ (h.2 _ hreply) (hexpected.imp_left And.right) (hstep g s i c hs h.1 hreply)

end

end Process
