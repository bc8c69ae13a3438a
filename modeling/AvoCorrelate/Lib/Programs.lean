import Mathlib.Logic.Function.Basic
import Mathlib.Data.List.Basic
/-!
# Programs over create-once files

A program reads files, publishes files that can be created only once, and asks
ports (a clock, a verifier, a remote service) whose answers nothing is known
about. `Prog` is the tree of its actions: every action with what the program
does on each answer. What a program has done so far is a log of events, latest
first. `Prog.Safe` is the program logic: along every path the rules hold of
each publication and each port request, given the log before it, and the
postcondition holds of the log and the outcome at the end.
-/
namespace AvoLib

/-- A file: not there, there without its content, or holding a record. -/
inductive File (α : Type)
  | absent | torn
  | bound (v : α)
  deriving DecidableEq

/-- What reading a file tells. -/
inductive Found (α : Type)
  | missing | malformed
  | found (v : α)
  deriving DecidableEq

def File.content {α : Type} : File α → Found α
  | .absent => .missing
  | .torn => .malformed
  | .bound v => .found v

/-- What an exclusive creation tells: the file was created and written; it was
there already; nothing was created; it was created, and writing it failed. A
program sees the last two alike, as an I/O error. -/
inductive Published
  | created | taken | failed | lost
  deriving DecidableEq

variable {K P : Type} {V : K → Type} {A : P → Type} {ε ε' α β : Type}

inductive Prog (V : K → Type) (A : P → Type) (ε α : Type)
  | done (x : α)
  | raise (e : ε)
  | read (k : K) (next : Found (V k) → Prog V A ε α)
  | publish (k : K) (v : V k) (next : Published → Prog V A ε α)
  | port (p : P) (next : A p → Prog V A ε α)

inductive Action (V : K → Type) (P : Type)
  | read (k : K)
  | publish (k : K) (v : V k)
  | port (p : P)

/-- An action with its answer. -/
inductive Event (V : K → Type) (A : P → Type)
  | read (k : K) (r : Found (V k))
  | publish (k : K) (v : V k) (r : Published)
  | port (p : P) (r : A p)

def Event.action : Event V A → Action V P
  | .read k _ => .read k
  | .publish k v _ => .publish k v
  | .port p _ => .port p

namespace Prog

def bind : Prog V A ε α → (α → Prog V A ε β) → Prog V A ε β
  | .done x, f => f x
  | .raise e, _ => .raise e
  | .read k next, f => .read k fun r => (next r).bind f
  | .publish k v next, f => .publish k v fun r => (next r).bind f
  | .port p next, f => .port p fun r => (next r).bind f

instance : Monad (Prog V A ε) where
  pure := .done
  bind := bind

theorem bind_bind {γ : Type} (p : Prog V A ε α) (f : α → Prog V A ε β) (g : β → Prog V A ε γ) :
    p >>= f >>= g = p >>= fun x => f x >>= g := by
  change (p.bind f).bind g = p.bind fun x => (f x).bind g
  induction p with
  | done x => rfl
  | raise e => rfl
  | read k next ih => simp only [bind, ih]
  | publish k v next ih => simp only [bind, ih]
  | port q next ih => simp only [bind, ih]

/-- Run a program and hand its exception over as a value. -/
def attempt : Prog V A ε α → Prog V A ε' (Except ε α)
  | .done x => .done (.ok x)
  | .raise e => .done (.error e)
  | .read k next => .read k fun r => (next r).attempt
  | .publish k v next => .publish k v fun r => (next r).attempt
  | .port p next => .port p fun r => (next r).attempt

/-- Raise `e` unless `p` holds. -/
def require (p : Prop) [Decidable p] (e : ε) : Prog V A ε Unit := if p then .done () else .raise e

/-- The value of an option, or raise `e`. -/
def ofOption (o : Option α) (e : ε) : Prog V A ε α :=
  match o with
  | some x => .done x
  | none => .raise e

end Prog

/-! ## Logs -/

abbrev Files (V : K → Type) := (k : K) → File (V k)

/-- What an event tells of the files: a record that was read or written is
there, and stays there. -/
def Tells (F : Files V) : Event V A → Prop
  | .read k (.found v) => F k = .bound v
  | .publish k v .created => F k = .bound v
  | _ => True

/-- The files are as the log tells. -/
def TrueOf (F : Files V) (h : List (Event V A)) : Prop := ∀ e ∈ h, Tells F e

theorem TrueOf.cons {F : Files V} {h : List (Event V A)} {e : Event V A} (he : Tells F e) (hh : TrueOf F h) :
    TrueOf F (e :: h) :=
  List.forall_mem_cons.mpr ⟨he, hh⟩

theorem TrueOf.of_cons {F : Files V} {h : List (Event V A)} {e : Event V A} (hh : TrueOf F (e :: h)) :
    Tells F e ∧ TrueOf F h :=
  List.forall_mem_cons.mp hh

theorem TrueOf.suffix {F : Files V} {h h' : List (Event V A)} (hs : h <:+ h') (hh : TrueOf F h') : TrueOf F h :=
  fun e he => hh e (hs.mem he)

/-- What was bound in `F` is bound in `F'`. -/
def Grows (F F' : Files V) : Prop := ∀ k v, F k = .bound v → F' k = .bound v

theorem TrueOf.grows {F F' : Files V} {h : List (Event V A)} (hF : Grows F F') (hh : TrueOf F h) : TrueOf F' h := by
  intro e he
  have ht := hh e he
  cases e with
  | read k r => cases r with
    | missing | malformed => trivial
    | found v => exact hF k v ht
  | publish k v r => cases r with
    | taken | failed | lost => trivial
    | created => exact hF k v ht
  | port => trivial

/-- Every record in the files is one that `Ok` accepts there. -/
def Linked (Ok : Files V → (k : K) → V k → Prop) (F : Files V) : Prop := ∀ k v, F k = .bound v → Ok F k v

/-- Which actions are in order, given the log before each. -/
abbrev Rules (V : K → Type) (A : P → Type) := List (Event V A) → Action V P → Prop

/-- From log `h` on the rules allow every action of `S`. -/
def Permits (G : Rules V A) (S : Action V P → Prop) (h : List (Event V A)) : Prop := ∀ h', h <:+ h' → ∀ a, S a → G h' a

variable {G : Rules V A} {S : Action V P → Prop} {h : List (Event V A)}

theorem Permits.suffix {h' : List (Event V A)} (hp : Permits G S h) (hs : h <:+ h') : Permits G S h' :=
  fun _ hs' => hp _ (hs.trans hs')

theorem Permits.here {a : Action V P} (hp : Permits G S h) (ha : S a) : G h a :=
  hp h (List.suffix_refl h) a ha

/-- Every action of the log was in order. -/
def Along (G : Rules V A) : List (Event V A) → Prop
  | [] => True
  | e :: h => G h e.action ∧ Along G h

theorem Along.rule {e : Event V A} (hg : Along G h) (he : e ∈ h) : ∃ h', h' <:+ h ∧ G h' e.action := by
  induction h with
  | nil => cases he
  | cons e' h ih =>
    rcases List.mem_cons.mp he with rfl | he
    · exact ⟨h, List.suffix_cons e h, hg.1⟩
    · obtain ⟨h', hs, ha⟩ := ih hg.2 he
      exact ⟨h', hs.trans (List.suffix_cons e' h), ha⟩

theorem Along.countP_le_one {f : Event V A → Bool} (hG : ∀ h e, f e = true → G h e.action → ∀ e' ∈ h, f e' = false)
    (hg : Along G h) : h.countP f ≤ 1 := by
  induction h with
  | nil => simp
  | cons e h ih =>
    by_cases he : f e = true
    · have hzero : h.countP f = 0 := by
        refine List.countP_eq_zero.mpr fun e' hm hf => ?_
        rw [hG h e he hg.1 e' hm] at hf
        cases hf
      refine Nat.le_of_eq ?_
      rw [List.countP_cons_of_pos he, hzero]
    · rw [List.countP_cons_of_neg he]
      exact ih hg.2

/-! ## The program logic -/

namespace Prog

/-- Along every path with answers true of the files `F`, the rules hold of each
action, and `Q` holds of the log and the outcome at its end. -/
def Safe (F : Files V) (G : Rules V A) (Q : List (Event V A) → Except ε α → Prop) (h : List (Event V A)) :
    Prog V A ε α → Prop
  | .done x => Q h (.ok x)
  | .raise e => Q h (.error e)
  | .read k next => G h (.read k) ∧ ∀ r, Tells F (.read k r : Event V A) → (next r).Safe F G Q (.read k r :: h)
  | .publish k v next =>
    G h (.publish k v) ∧ ∀ r, Tells F (.publish k v r : Event V A) → (next r).Safe F G Q (.publish k v r :: h)
  | .port p next => G h (.port p) ∧ ∀ r, (next r).Safe F G Q (.port p r :: h)

variable {F : Files V} {G : Rules V A} {Q Q' : List (Event V A) → Except ε α → Prop} {h : List (Event V A)}
  {p : Prog V A ε α}

theorem Safe.mono (hp : p.Safe F G Q h) (hq : ∀ h' x, Q h' x → Q' h' x) : p.Safe F G Q' h := by
  induction p generalizing h with
  | done x => exact hq _ _ hp
  | raise e => exact hq _ _ hp
  | read k next ih => exact ⟨hp.1, fun r hr => ih r (hp.2 r hr)⟩
  | publish k v next ih => exact ⟨hp.1, fun r hr => ih r (hp.2 r hr)⟩
  | port q next ih => exact ⟨hp.1, fun r => ih r (hp.2 r)⟩

theorem Safe.weaken {G' : Rules V A} (hp : p.Safe F G' Q h) (hG : ∀ h', h <:+ h' → ∀ a, G' h' a → G h' a) :
    p.Safe F G Q h := by
  induction p generalizing h with
  | done x => exact hp
  | raise e => exact hp
  | read k next ih =>
    exact ⟨hG h (List.suffix_refl h) _ hp.1, fun r hr => ih r (hp.2 r hr) fun h' hs => hG h' ((List.suffix_cons _ _).trans hs)⟩
  | publish k v next ih =>
    exact ⟨hG h (List.suffix_refl h) _ hp.1, fun r hr => ih r (hp.2 r hr) fun h' hs => hG h' ((List.suffix_cons _ _).trans hs)⟩
  | port q next ih =>
    exact ⟨hG h (List.suffix_refl h) _ hp.1, fun r => ih r (hp.2 r) fun h' hs => hG h' ((List.suffix_cons _ _).trans hs)⟩

theorem Safe.suffix (hp : p.Safe F G Q h) : p.Safe F G (fun h' x => h <:+ h' ∧ Q h' x) h := by
  induction p generalizing h with
  | done x => exact ⟨List.suffix_refl h, hp⟩
  | raise e => exact ⟨List.suffix_refl h, hp⟩
  | read k next ih =>
    exact ⟨hp.1, fun r hr => (ih r (hp.2 r hr)).mono fun _ _ hx => ⟨(List.suffix_cons _ _).trans hx.1, hx.2⟩⟩
  | publish k v next ih =>
    exact ⟨hp.1, fun r hr => (ih r (hp.2 r hr)).mono fun _ _ hx => ⟨(List.suffix_cons _ _).trans hx.1, hx.2⟩⟩
  | port q next ih =>
    exact ⟨hp.1, fun r => (ih r (hp.2 r)).mono fun _ _ hx => ⟨(List.suffix_cons _ _).trans hx.1, hx.2⟩⟩

variable {f : α → Prog V A ε β} {R : List (Event V A) → Except ε β → Prop} {c : Prop} {e : ε} {S' : Action V P → Prop}
  {h' : List (Event V A)}

theorem Safe.bind (hp : p.Safe F G Q h) (hok : ∀ h' x, Q h' (.ok x) → (f x).Safe F G R h')
    (herr : ∀ h' e, Q h' (.error e) → R h' (.error e)) : (p >>= f).Safe F G R h := by
  change (Prog.bind p f).Safe F G R h
  induction p generalizing h with
  | done x => exact hok _ _ hp
  | raise e => exact herr _ _ hp
  | read k next ih => exact ⟨hp.1, fun r hr => ih r (hp.2 r hr)⟩
  | publish k v next ih => exact ⟨hp.1, fun r hr => ih r (hp.2 r hr)⟩
  | port q next ih => exact ⟨hp.1, fun r => ih r (hp.2 r)⟩

/-- A postcondition on returning only. -/
def Returning (Q : List (Event V A) → α → Prop) (h : List (Event V A)) : Except ε α → Prop
  | .ok x => Q h x
  | .error _ => True

theorem Safe.seq {Q : List (Event V A) → α → Prop} {R : List (Event V A) → β → Prop} (hp : p.Safe F G (Returning Q) h)
    (hf : ∀ h' x, h <:+ h' → Q h' x → (f x).Safe F G (Returning R) h') : (p >>= f).Safe F G (Returning R) h :=
  hp.suffix.bind (fun h' x hx => hf h' x hx.1 hx.2) fun _ _ _ => trivial

theorem Safe.attempt_bind {f : Except ε α → Prog V A ε' β} {R : List (Event V A) → Except ε' β → Prop}
    (hp : p.Safe F G Q h) (hf : ∀ h' x, Q h' x → (f x).Safe F G R h') : (p.attempt >>= f).Safe F G R h := by
  change (Prog.bind p.attempt f).Safe F G R h
  induction p generalizing h with
  | done x => exact hf _ _ hp
  | raise e => exact hf _ _ hp
  | read k next ih => exact ⟨hp.1, fun r hr => ih r (hp.2 r hr)⟩
  | publish k v next ih => exact ⟨hp.1, fun r hr => ih r (hp.2 r hr)⟩
  | port q next ih => exact ⟨hp.1, fun r => ih r (hp.2 r)⟩

theorem Safe.port_bind {q : P} {next : A q → Prog V A ε α} (hg : G h (.port q))
    (hn : ∀ r, (next r >>= f).Safe F G R (.port q r :: h)) : (Prog.port q next >>= f).Safe F G R h :=
  ⟨hg, hn⟩

theorem Safe.require_bind [Decidable c] {f : Unit → Prog V A ε α} (hok : c → (f ()).Safe F G Q h)
    (herr : Q h (.error e)) : (Prog.require c e >>= f).Safe F G Q h := by
  unfold Prog.require
  split
  · next hc => exact hok hc
  · exact herr

theorem Safe.ofOption_bind {o : Option β} {f : β → Prog V A ε α} (hok : ∀ x, o = some x → (f x).Safe F G Q h)
    (herr : Q h (.error e)) : (Prog.ofOption o e >>= f).Safe F G Q h := by
  cases o with
  | none => exact herr
  | some x => exact hok x rfl

/-! ## What a program can do -/

/-- Every action of the program, whatever the answers, is in `S`. -/
def Does (S : Action V P → Prop) : Prog V A ε α → Prop
  | .done _ => True
  | .raise _ => True
  | .read k next => S (.read k) ∧ ∀ r, (next r).Does S
  | .publish k v next => S (.publish k v) ∧ ∀ r, (next r).Does S
  | .port p next => S (.port p) ∧ ∀ r, (next r).Does S

variable {S : Action V P → Prop}

theorem Does.mono (hp : p.Does S) (hS : ∀ a, S a → S' a) : p.Does S' := by
  induction p with
  | done x => trivial
  | raise e => trivial
  | read k next ih => exact ⟨hS _ hp.1, fun r => ih r (hp.2 r)⟩
  | publish k v next ih => exact ⟨hS _ hp.1, fun r => ih r (hp.2 r)⟩
  | port q next ih => exact ⟨hS _ hp.1, fun r => ih r (hp.2 r)⟩

theorem Does.bind (hp : p.Does S) (hf : ∀ x, (f x).Does S) : (p >>= f).Does S := by
  change (Prog.bind p f).Does S
  induction p with
  | done x => exact hf x
  | raise e => trivial
  | read k next ih => exact ⟨hp.1, fun r => ih r (hp.2 r)⟩
  | publish k v next ih => exact ⟨hp.1, fun r => ih r (hp.2 r)⟩
  | port q next ih => exact ⟨hp.1, fun r => ih r (hp.2 r)⟩

theorem Does.any (p : Prog V A ε α) : p.Does fun _ => True := by
  induction p with
  | done x => trivial
  | raise e => trivial
  | read k next ih => exact ⟨trivial, ih⟩
  | publish k v next ih => exact ⟨trivial, ih⟩
  | port q next ih => exact ⟨trivial, ih⟩

theorem Does.attempt (hp : p.Does S) : (p.attempt : Prog V A ε' (Except ε α)).Does S := by
  induction p with
  | done x => trivial
  | raise e => trivial
  | read k next ih => exact ⟨hp.1, fun r => ih r (hp.2 r)⟩
  | publish k v next ih => exact ⟨hp.1, fun r => ih r (hp.2 r)⟩
  | port q next ih => exact ⟨hp.1, fun r => ih r (hp.2 r)⟩

theorem Does.require [Decidable c] : (Prog.require c e : Prog V A ε Unit).Does S := by
  unfold Prog.require
  split <;> trivial

theorem Does.ofOption {o : Option α} : (Prog.ofOption o e : Prog V A ε α).Does S := by
  cases o <;> trivial

theorem Does.require_bind [Decidable c] {f : Unit → Prog V A ε β} (hf : ∀ x, (f x).Does S) :
    (Prog.require c e >>= f).Does S :=
  Does.require.bind hf

theorem Does.ofOption_bind {o : Option α} {f : α → Prog V A ε β} (hf : ∀ x, (f x).Does S) :
    (Prog.ofOption o e >>= f).Does S :=
  Does.ofOption.bind hf

/-- Log `h'` extends `h` by actions of `S`. -/
def Extends (S : Action V P → Prop) (h h' : List (Event V A)) : Prop := ∃ es, h' = es ++ h ∧ ∀ e ∈ es, S e.action

theorem Extends.refl : Extends S h h := ⟨[], rfl, by simp⟩

theorem Extends.mono (he : Extends S h h') (hS : ∀ a, S a → S' a) : Extends S' h h' := by
  obtain ⟨es, rfl, hes⟩ := he
  exact ⟨es, rfl, fun e hm => hS _ (hes e hm)⟩

theorem Extends.suffix (he : Extends S h h') : h <:+ h' := by
  obtain ⟨es, rfl, _⟩ := he
  exact List.suffix_append es h

theorem Extends.of_cons {e : Event V A} (hx : Extends S (e :: h) h') (he : S e.action) : Extends S h h' := by
  obtain ⟨es, rfl, hs⟩ := hx
  refine ⟨es ++ [e], by simp, ?_⟩
  intro e' hm
  rcases List.mem_append.mp hm with hm | hm
  · exact hs e' hm
  · rw [List.mem_singleton.mp hm]; exact he

theorem Safe.extends (hp : p.Safe F G Q h) (hd : p.Does S) : p.Safe F G (fun h' x => Extends S h h' ∧ Q h' x) h := by
  induction p generalizing h with
  | done x => exact ⟨.refl, hp⟩
  | raise e => exact ⟨.refl, hp⟩
  | read k next ih =>
    exact ⟨hp.1, fun r hr => (ih r (hp.2 r hr) (hd.2 r)).mono fun _ _ hx => ⟨hx.1.of_cons hd.1, hx.2⟩⟩
  | publish k v next ih =>
    exact ⟨hp.1, fun r hr => (ih r (hp.2 r hr) (hd.2 r)).mono fun _ _ hx => ⟨hx.1.of_cons hd.1, hx.2⟩⟩
  | port q next ih =>
    exact ⟨hp.1, fun r => (ih r (hp.2 r) (hd.2 r)).mono fun _ _ hx => ⟨hx.1.of_cons hd.1, hx.2⟩⟩

theorem Safe.frame {Q : List (Event V A) → α → Prop} (hp : p.Safe F G (Returning Q) h) (hd : p.Does S) :
    p.Safe F G (Returning fun h' x => Extends S h h' ∧ Q h' x) h :=
  (hp.extends hd).mono fun h' x hx => by
    cases x with
    | error e => trivial
    | ok y => exact hx

theorem Safe.keeps {I : List (Event V A) → Prop} (hp : p.Safe F G Q h) (hd : p.Does S)
    (hI : ∀ h' e, I h' → S e.action → I (e :: h')) (h0 : I h) : p.Safe F G (fun h' x => I h' ∧ Q h' x) h := by
  refine (hp.extends hd).mono fun h' x hx => ⟨?_, hx.2⟩
  obtain ⟨es, rfl, hes⟩ := hx.1
  clear hx
  induction es with
  | nil => exact h0
  | cons e es ih =>
    have hrest := List.forall_mem_cons.mp hes
    exact hI _ _ (ih hrest.2) hrest.1

theorem Does.safe (hd : p.Does S) (hS : Permits G S h) : p.Safe F G (fun _ _ => True) h := by
  induction p generalizing h with
  | done x => trivial
  | raise e => trivial
  | read k next ih =>
    exact ⟨hS.here hd.1, fun r _ => ih r (hd.2 r) (hS.suffix (List.suffix_cons _ _))⟩
  | publish k v next ih =>
    exact ⟨hS.here hd.1, fun r _ => ih r (hd.2 r) (hS.suffix (List.suffix_cons _ _))⟩
  | port q next ih =>
    exact ⟨hS.here hd.1, fun r => ih r (hd.2 r) (hS.suffix (List.suffix_cons _ _))⟩

end Prog

end AvoLib
