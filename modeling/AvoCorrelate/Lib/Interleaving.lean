import AvoCorrelate.Lib.Programs
import AvoCorrelate.Lib.Transactions
import Mathlib.Algebra.GroupWithZero.Nat
/-!
# Programs interleaved over shared files

Any number of calls run concurrently, in one process or in many, on one set of
create-once files. One move starts a call, stops one for good (a crash), or lets
one take its next action with the answers nature picks for it. Creating a file
is atomic, writing it is a later step of the call that created it: in between
the others see it torn. `run` is the other extreme, one program run alone to its
end.
-/
namespace AvoLib

variable {K P : Type} [DecidableEq K] {V : K → Type} {A : P → Type} {ε ε' α β J : Type}

def Files.put (files : Files V) (k : K) (f : File (V k)) : Files V := Function.update files k f

@[simp] theorem Files.put_self (files : Files V) (k : K) (f : File (V k)) : files.put k f k = f := by
  simp [Files.put]

theorem Files.put_ne (files : Files V) {k k' : K} (f : File (V k)) (h : k' ≠ k) : files.put k f k' = files k' := by
  simp [Files.put, h]

/-! ## The system -/

inductive Status (V : K → Type) (A : P → Type) (ε α : Type)
  | running (p : Prog V A ε α)
  -- the file is created, its content is not written yet
  | writing (k : K) (v : V k) (next : Published → Prog V A ε α)
  | crashed

/-- One call with what it has done so far, latest first. -/
structure Thread (J : Type) (V : K → Type) (A : P → Type) (ε α : Type) where
  call : J
  status : Status V A ε α
  log : List (Event V A)

structure Config (J : Type) (V : K → Type) (A : P → Type) (ε α : Type) where
  files : Files V
  threads : List (Thread J V A ε α)

/-- How writing a created file ends: with its content durable; with an error and
no content; with an error after the content was written. -/
inductive Write
  | written | torn | unsynced
  deriving DecidableEq

/-- What nature decides in one step. -/
structure Nature (A : P → Type) where
  readFails : Bool
  createFails : Bool
  write : Write
  answer : (p : P) → A p

inductive Move (J : Type) (A : P → Type)
  | start (call : J)
  | crash (i : Nat)
  | step (i : Nat) (n : Nature A)

/-- The next action of a call: the files and the call after it. -/
def Thread.step (n : Nature A) (files : Files V) (t : Thread J V A ε α) : Option (Files V × Thread J V A ε α) :=
  match t.status with
  | .running (.read k next) =>
    let r := if n.readFails then .malformed else (files k).content
    some (files, { t with status := .running (next r), log := .read k r :: t.log })
  | .running (.publish k v next) =>
    if n.createFails then
      some (files, { t with status := .running (next .failed), log := .publish k v .failed :: t.log })
    else match files k with
      | .absent => some (files.put k .torn, { t with status := .writing k v next })
      | _ => some (files, { t with status := .running (next .taken), log := .publish k v .taken :: t.log })
  | .running (.port p next) =>
    let r := n.answer p
    some (files, { t with status := .running (next r), log := .port p r :: t.log })
  | .writing k v next =>
    match n.write with
    | .written =>
      some (files.put k (.bound v), { t with status := .running (next .created), log := .publish k v .created :: t.log })
    | .torn => some (files, { t with status := .running (next .lost), log := .publish k v .lost :: t.log })
    | .unsynced =>
      some (files.put k (.bound v), { t with status := .running (next .lost), log := .publish k v .lost :: t.log })
  | .running (.done _) => none
  | .running (.raise _) => none
  | .crashed => none

/-- One move of the system; a move that is not possible raises. -/
def perform (program : J → Prog V A ε α) (c : Config J V A ε α) : Move J A → Except Unit (Config J V A ε α)
  | .start call => .ok { c with threads := c.threads ++ [⟨call, .running (program call), []⟩] }
  | .crash i => do
    let t ← orRaise c.threads[i]? ()
    return { c with threads := c.threads.set i { t with status := .crashed } }
  | .step i n => do
    let t ← orRaise c.threads[i]? ()
    let (files, t') ← orRaise (t.step n c.files) ()
    return { files, threads := c.threads.set i t' }

/-- No call yet, over the files of an earlier history. -/
def Config.idle (files : Files V) : Config J V A ε α := ⟨files, []⟩

/-- What one step of a call does: it creates a file, it finishes writing a file
it created, or it ends any other action and leaves the files alone. -/
inductive Stepped (files : Files V) (t : Thread J V A ε α) : Files V → Thread J V A ε α → Prop
  | read {k : K} {next : Found (V k) → Prog V A ε α} (hs : t.status = .running (.read k next)) (r : Found (V k))
    (hr : r = .malformed ∨ r = (files k).content) :
    Stepped files t files { t with status := .running (next r), log := .read k r :: t.log }
  | port {p : P} {next : A p → Prog V A ε α} (hs : t.status = .running (.port p next)) (r : A p) :
    Stepped files t files { t with status := .running (next r), log := .port p r :: t.log }
  | refused {k : K} {v : V k} {next : Published → Prog V A ε α} (hs : t.status = .running (.publish k v next))
    (r : Published) (hr : r = .failed ∨ (r = .taken ∧ files k ≠ .absent)) :
    Stepped files t files { t with status := .running (next r), log := .publish k v r :: t.log }
  | create {k : K} {v : V k} {next : Published → Prog V A ε α} (hs : t.status = .running (.publish k v next))
    (hk : files k = .absent) :
    Stepped files t (files.put k .torn) { t with status := .writing k v next }
  | wrote {k : K} {v : V k} {next : Published → Prog V A ε α} (hs : t.status = .writing k v next) (r : Published)
    (hr : r = .created ∨ r = .lost) :
    Stepped files t (files.put k (.bound v)) { t with status := .running (next r), log := .publish k v r :: t.log }
  | tore {k : K} {v : V k} {next : Published → Prog V A ε α} (hs : t.status = .writing k v next) :
    Stepped files t files { t with status := .running (next .lost), log := .publish k v .lost :: t.log }

variable {n : Nature A} {files files' init : Files V} {t t' : Thread J V A ε α} {program : J → Prog V A ε α}
  {c c' : Config J V A ε α} {m : Move J A} {i j : Nat} {k : K} {v : V k} {next : Published → Prog V A ε α} {τ : Type}
  {l : List τ} {x y : τ} {Pm : Config J V A ε α → Move J A → Prop}

theorem Thread.step_cases (h : t.step n files = some (files', t')) : Stepped files t files' t' := by
  unfold Thread.step at h
  split at h
  · next k next hs =>
    cases h
    refine .read hs _ ?_
    by_cases hf : n.readFails = true
    · exact .inl (if_pos hf)
    · exact .inr (if_neg hf)
  · next k v next hs =>
    split at h
    · cases h
      exact .refused hs .failed (.inl rfl)
    · split at h
      · next hk => cases h; exact .create hs hk
      · next hk => cases h; exact .refused hs .taken (.inr ⟨rfl, hk⟩)
  · next p next hs => cases h; exact .port hs _
  · next k v next hs =>
    split at h
    · cases h; exact .wrote hs .created (.inl rfl)
    · cases h; exact .tore hs
    · cases h; exact .wrote hs .lost (.inr rfl)
  · cases h
  · cases h
  · cases h

theorem perform_cases (h : perform program c m = .ok c') :
    (∃ call, m = .start call ∧ c' = { c with threads := c.threads ++ [⟨call, .running (program call), []⟩] }) ∨
    (∃ i t, m = .crash i ∧ c.threads[i]? = some t ∧
      c' = { c with threads := c.threads.set i { t with status := .crashed } }) ∨
    (∃ i n t files' t', m = .step i n ∧ c.threads[i]? = some t ∧ Stepped c.files t files' t' ∧
      c' = ⟨files', c.threads.set i t'⟩) := by
  cases m with
  | start call => cases h; exact .inl ⟨call, rfl, rfl⟩
  | crash i =>
    simp only [perform, bind_ok, orRaise_ok, pure_ok] at h
    obtain ⟨t, ht, rfl⟩ := h
    exact .inr (.inl ⟨i, t, rfl, ht, rfl⟩)
  | step i n =>
    simp only [perform, bind_ok, orRaise_ok, pure_ok] at h
    obtain ⟨t, ht, ⟨files', t'⟩, hs, rfl⟩ := h
    exact .inr (.inr ⟨i, n, t, files', t', rfl, ht, Thread.step_cases hs, rfl⟩)

theorem perform_step_ok (h : perform program c (.step i n) = .ok c') :
    ∃ t files' t', c.threads[i]? = some t ∧ t.step n c.files = some (files', t') ∧ c' = ⟨files', c.threads.set i t'⟩ := by
  simp only [perform, bind_ok, orRaise_ok, pure_ok] at h
  obtain ⟨t, ht, ⟨files', t'⟩, hs, rfl⟩ := h
  exact ⟨t, files', t', ht, hs, rfl⟩

theorem Thread.step_failed (h : t.step n files = some (files', t')) (hlog : t'.log = .publish k v .failed :: t.log) :
    n.createFails = true := by
  unfold Thread.step at h
  split at h
  · cases h; cases hlog
  · split at h
    · next hf => exact hf
    · split at h
      · cases h; exact absurd (congrArg List.length hlog) (by simp)
      · cases h; cases hlog
  · cases h; cases hlog
  · split at h <;> cases h <;> cases hlog
  · cases h
  · cases h
  · cases h

theorem Thread.step_lost (h : t.step n files = some (files', t')) (hlog : t'.log = .publish k v .lost :: t.log) :
    (∃ next, t.status = .writing k v next) ∧ ((n.write = .torn ∧ files' = files) ∨ n.write = .unsynced) := by
  unfold Thread.step at h
  split at h
  · cases h; cases hlog
  · split at h
    · cases h; cases hlog
    · split at h
      · cases h; exact absurd (congrArg List.length hlog) (by simp)
      · cases h; cases hlog
  · cases h; cases hlog
  · next k' v' next hs =>
    split at h
    · cases h; cases hlog
    · next hw => cases h; cases hlog; exact ⟨⟨next, hs⟩, .inl ⟨hw, rfl⟩⟩
    · next hw => cases h; cases hlog; exact ⟨⟨next, hs⟩, .inr hw⟩
  · cases h
  · cases h
  · cases h

/-! ## What the files remember -/

/-- The call created file `k`. -/
def Thread.Owns (t : Thread J V A ε α) (k : K) : Prop :=
  ∃ v, (∃ next, t.status = .writing k v next) ∨ .publish k v .created ∈ t.log ∨ .publish k v .lost ∈ t.log

/-- The call wrote record `v` to file `k`. -/
def Thread.Wrote (t : Thread J V A ε α) (k : K) (v : V k) : Prop :=
  .publish k v .created ∈ t.log ∨ .publish k v .lost ∈ t.log

/-- What holds of every run that started from the files `init`: they stay as they
were, a log is true of the files, each other file has the one call that created
it. -/
structure Config.Sound (init : Files V) (c : Config J V A ε α) : Prop where
  kept : ∀ k, init k ≠ .absent → c.files k = init k
  writing : ∀ {i : Nat} {t : Thread J V A ε α} {k : K} {v : V k} {next : Published → Prog V A ε α},
    c.threads[i]? = some t → t.status = .writing k v next → c.files k = .torn
  tells : ∀ {i : Nat} {t : Thread J V A ε α}, c.threads[i]? = some t → TrueOf c.files t.log
  owned : ∀ {i : Nat} {t : Thread J V A ε α} {k : K},
    c.threads[i]? = some t → t.Owns k → c.files k ≠ .absent ∧ init k = .absent
  exclusive : ∀ {i j : Nat} {t u : Thread J V A ε α} {k : K},
    c.threads[i]? = some t → c.threads[j]? = some u → t.Owns k → u.Owns k → i = j
  origin : ∀ {k : K} {v : V k}, c.files k = .bound v →
    init k = .bound v ∨ ∃ (i : Nat) (t : Thread J V A ε α), c.threads[i]? = some t ∧ t.Wrote k v

omit [DecidableEq K] in
theorem Thread.owns_of_writing (hs : t.status = .writing k v next) : t.Owns k := ⟨v, .inl ⟨next, hs⟩⟩

omit [DecidableEq K] in
theorem Thread.Wrote.owns (h : t.Wrote k v) : t.Owns k := ⟨v, .inr h⟩

theorem Stepped.file (h : Stepped files t files' t') (k : K) :
    files' k = files k ∨ (files k = .absent ∧ files' k = .torn) ∨
      ∃ v next, t.status = .writing k v next ∧ files' k = .bound v ∧ t'.Wrote k v := by
  cases h with
  | read | port | refused | tore => exact .inl rfl
  | @create k' v next hs hk =>
    by_cases hkk : k = k'
    · subst hkk
      exact .inr (.inl ⟨hk, by simp⟩)
    · exact .inl (files.put_ne _ hkk)
  | @wrote k' v next hs r hr =>
    by_cases hkk : k = k'
    · subst hkk
      refine .inr (.inr ⟨v, next, hs, by simp, ?_⟩)
      rcases hr with rfl | rfl
      · exact .inl (by simp)
      · exact .inr (by simp)
    · exact .inl (files.put_ne _ hkk)

theorem Stepped.owns (h : Stepped files t files' t') (ho : t'.Owns k) :
    t.Owns k ∨ (files k = .absent ∧ files' k = .torn) := by
  obtain ⟨v, ho⟩ := ho
  cases h with
  | read | port =>
    rcases ho with ⟨_, hw⟩ | hm | hm
    · cases hw
    · exact .inl ⟨v, .inr (.inl (by simpa using hm))⟩
    · exact .inl ⟨v, .inr (.inr (by simpa using hm))⟩
  | @refused k' v' next hs r hr =>
    have hn : r ≠ .created ∧ r ≠ .lost := by rcases hr with rfl | ⟨rfl, _⟩ <;> simp
    rcases ho with ⟨_, hw⟩ | hm | hm
    · cases hw
    · rcases List.mem_cons.mp hm with he | hm
      · cases he; exact absurd rfl hn.1
      · exact .inl ⟨v, .inr (.inl hm)⟩
    · rcases List.mem_cons.mp hm with he | hm
      · cases he; exact absurd rfl hn.2
      · exact .inl ⟨v, .inr (.inr hm)⟩
  | @create k' v' next hs hk =>
    rcases ho with ⟨_, hw⟩ | hm | hm
    · cases hw; exact .inr ⟨hk, by simp⟩
    · exact .inl ⟨v, .inr (.inl hm)⟩
    · exact .inl ⟨v, .inr (.inr hm)⟩
  | @wrote k' v' next hs r hr =>
    rcases ho with ⟨_, hw⟩ | hm | hm
    · cases hw
    · rcases List.mem_cons.mp hm with he | hm
      · cases he; exact .inl (Thread.owns_of_writing hs)
      · exact .inl ⟨v, .inr (.inl hm)⟩
    · rcases List.mem_cons.mp hm with he | hm
      · cases he; exact .inl (Thread.owns_of_writing hs)
      · exact .inl ⟨v, .inr (.inr hm)⟩
  | @tore k' v' next hs =>
    rcases ho with ⟨_, hw⟩ | hm | hm
    · cases hw
    · rcases List.mem_cons.mp hm with he | hm
      · cases he
      · exact .inl ⟨v, .inr (.inl hm)⟩
    · rcases List.mem_cons.mp hm with he | hm
      · cases he; exact .inl (Thread.owns_of_writing hs)
      · exact .inl ⟨v, .inr (.inr hm)⟩

theorem Stepped.tells (h : Stepped files t files' t') (ht : TrueOf files' t.log) : TrueOf files' t'.log := by
  cases h with
  | @read k next hs r hr =>
    refine ht.cons ?_
    cases r with
    | missing | malformed => trivial
    | found v =>
      rcases hr with hr | hr
      · cases hr
      · cases hf : files k with
        | absent | torn => rw [hf] at hr; cases hr
        | bound w => rw [hf] at hr; cases hr; exact hf
  | port => exact ht.cons trivial
  | refused hs r hr => rcases hr with rfl | ⟨rfl, _⟩ <;> exact ht.cons trivial
  | create => exact ht
  | wrote hs r hr =>
    rcases hr with rfl | rfl
    · exact ht.cons (Files.put_self _ _ _)
    · exact ht.cons trivial
  | tore => exact ht.cons trivial

theorem Stepped.writing (h : Stepped files t files' t') (hs : t'.status = .writing k v next) : files' k = .torn := by
  cases h with
  | read | port | refused | wrote | tore => cases hs
  | create => cases hs; simp

theorem Stepped.log (h : Stepped files t files' t') : t.log <:+ t'.log := by
  cases h with
  | read | port | refused | wrote | tore => exact List.suffix_cons _ _
  | create => exact List.suffix_refl _

theorem Stepped.not_crashed (h : Stepped files t files' t') : t'.status ≠ .crashed := by
  cases h <;> exact fun hc => nomatch hc

theorem Stepped.latest {e : Event V A} (h : Stepped files t files' t') (he : e ∈ t'.log) :
    e ∈ t.log ∨ t'.log = e :: t.log := by
  cases h with
  | read | port | refused | wrote | tore =>
    rcases List.mem_cons.mp he with rfl | he
    · exact .inr rfl
    · exact .inl he
  | create => exact .inl he

theorem getElem?_set_cases (h : (l.set i x)[j]? = some y) : (j = i ∧ y = x) ∨ (j ≠ i ∧ l[j]? = some y) := by
  rw [List.getElem?_set] at h
  split at h
  · next hij =>
    split at h
    · cases h; exact .inl ⟨hij.symm, rfl⟩
    · cases h
  · next hij => exact .inr ⟨fun hji => hij hji.symm, h⟩

theorem getElem?_snoc_cases (h : (l ++ [x])[j]? = some y) : l[j]? = some y ∨ (j = l.length ∧ y = x) := by
  rw [List.getElem?_append] at h
  split at h
  · exact .inl h
  · rw [List.getElem?_singleton] at h
    split at h
    · cases h; exact .inr ⟨by omega, rfl⟩
    · cases h

theorem exists_after_set {z : τ} {R : τ → Prop} (hi : l[i]? = some z) (hj : l[j]? = some y) (hy : R y) (hz : R z → R x) :
    ∃ (m : Nat) (w : τ), (l.set i x)[m]? = some w ∧ R w := by
  by_cases hij : i = j
  · subst hij
    rw [hi] at hj
    cases hj
    refine ⟨i, x, ?_, hz hy⟩
    rw [List.getElem?_set_self (List.getElem?_eq_some_iff.mp hi).1]
  · exact ⟨j, y, by rw [List.getElem?_set_ne hij]; exact hj, hy⟩

section Sound
variable {init files files' : Files V} {c : Config J V A ε α} {i : Nat} {t t' : Thread J V A ε α}

theorem Config.Sound.grows (hc : c.Sound init) (ht : c.threads[i]? = some t) (hs : Stepped c.files t files' t') :
    Grows c.files files' := by
  intro k v hb
  rcases hs.file k with he | ⟨ha, _⟩ | ⟨w, next, hw, _, _⟩
  · exact he.trans hb
  · cases ha.symm.trans hb
  · cases (hc.writing ht hw).symm.trans hb

theorem Stepped.present (hs : Stepped files t files' t') {k : K} (hk : files k ≠ .absent) : files' k ≠ .absent := by
  rcases hs.file k with he | ⟨ha, _⟩ | ⟨w, next, _, hn, _⟩
  · rw [he]; exact hk
  · exact absurd ha hk
  · rw [hn]; exact fun h => (nomatch h)

theorem Config.Sound.step (hc : c.Sound init) (ht : c.threads[i]? = some t) (hs : Stepped c.files t files' t') :
    Config.Sound init ⟨files', c.threads.set i t'⟩ where
  kept k hk := by
    rcases hs.file k with he | ⟨ha, _⟩ | ⟨v, next, hw, _, _⟩
    · exact he.trans (hc.kept k hk)
    · rw [hc.kept k hk] at ha
      exact absurd ha hk
    · exact absurd (hc.owned ht (Thread.owns_of_writing hw)).2 hk
  writing := by
    intro j u k v next hj hw
    rcases getElem?_set_cases hj with ⟨rfl, rfl⟩ | ⟨hji, hj⟩
    · exact hs.writing hw
    · have htorn := hc.writing hj hw
      rcases hs.file k with he | ⟨ha, _⟩ | ⟨v', next', hw', _, _⟩
      · exact he.trans htorn
      · rw [ha] at htorn; cases htorn
      · exact absurd (hc.exclusive hj ht (Thread.owns_of_writing hw) (Thread.owns_of_writing hw')) hji
  tells := by
    intro j u hj
    rcases getElem?_set_cases hj with ⟨rfl, rfl⟩ | ⟨_, hj⟩
    · exact hs.tells ((hc.tells ht).grows (hc.grows ht hs))
    · exact (hc.tells hj).grows (hc.grows ht hs)
  owned := by
    intro j u k hj ho
    rcases getElem?_set_cases hj with ⟨rfl, rfl⟩ | ⟨_, hj⟩
    · rcases hs.owns ho with ho | ⟨ha, hn⟩
      · exact ⟨hs.present (hc.owned ht ho).1, (hc.owned ht ho).2⟩
      · refine ⟨by simp [hn], ?_⟩
        by_contra hk
        exact hk ((hc.kept k hk).symm.trans ha)
    · exact ⟨hs.present (hc.owned hj ho).1, (hc.owned hj ho).2⟩
  exclusive := by
    intro j l u w k hj hl hu hw
    rcases getElem?_set_cases hj with ⟨rfl, rfl⟩ | ⟨_, hj'⟩ <;>
      rcases getElem?_set_cases hl with ⟨rfl, rfl⟩ | ⟨_, hl'⟩
    · rfl
    · rcases hs.owns hu with hu | ⟨ha, _⟩
      · exact hc.exclusive ht hl' hu hw
      · exact absurd ha (hc.owned hl' hw).1
    · rcases hs.owns hw with hw | ⟨ha, _⟩
      · exact hc.exclusive hj' ht hu hw
      · exact absurd ha (hc.owned hj' hu).1
    · exact hc.exclusive hj' hl' hu hw
  origin := by
    intro k v hb
    rcases hs.file k with he | ⟨_, hn⟩ | ⟨v', next, hw, hn, hwr⟩
    · rcases hc.origin (he.symm.trans hb) with h | ⟨j, u, hj, hu⟩
      · exact .inl h
      · exact .inr (exists_after_set ht hj hu fun h => h.imp (hs.log.mem ·) (hs.log.mem ·))
    · cases hn.symm.trans hb
    · cases hn.symm.trans hb
      refine .inr ⟨i, t', ?_, hwr⟩
      exact List.getElem?_set_self (List.getElem?_eq_some_iff.mp ht).1

omit [DecidableEq K] in
theorem Config.Sound.crash (hc : c.Sound init) (ht : c.threads[i]? = some t) :
    Config.Sound init { c with threads := c.threads.set i { t with status := .crashed } } := by
  have hown : ∀ {k : K}, ({ t with status := .crashed } : Thread J V A ε α).Owns k → t.Owns k := by
    rintro k ⟨v, ⟨_, h⟩ | h⟩
    · cases h
    · exact ⟨v, .inr h⟩
  refine ⟨hc.kept, ?_, ?_, ?_, ?_, ?_⟩
  · intro j u k v next hj hw
    rcases getElem?_set_cases hj with ⟨rfl, rfl⟩ | ⟨_, hj⟩
    · cases hw
    · exact hc.writing hj hw
  · intro j u hj
    rcases getElem?_set_cases hj with ⟨rfl, rfl⟩ | ⟨_, hj⟩
    · have htells : TrueOf c.files t.log := hc.tells ht
      exact htells
    · exact hc.tells hj
  · intro j u k hj ho
    rcases getElem?_set_cases hj with ⟨rfl, rfl⟩ | ⟨_, hj⟩
    · exact hc.owned ht (hown ho)
    · exact hc.owned hj ho
  · intro j l u w k hj hl hu hw
    rcases getElem?_set_cases hj with ⟨rfl, rfl⟩ | ⟨_, hj'⟩ <;>
      rcases getElem?_set_cases hl with ⟨rfl, rfl⟩ | ⟨_, hl'⟩
    · rfl
    · exact hc.exclusive ht hl' (hown hu) hw
    · exact hc.exclusive hj' ht hu (hown hw)
    · exact hc.exclusive hj' hl' hu hw
  · intro k v hb
    rcases hc.origin hb with h | ⟨j, u, hj, hu⟩
    · exact .inl h
    · exact .inr (exists_after_set ht hj hu fun h => h)

omit [DecidableEq K] in
theorem Config.Sound.start (hc : c.Sound init) (call : J) (p : Prog V A ε α) :
    Config.Sound init { c with threads := c.threads ++ [⟨call, .running p, []⟩] } := by
  have hnone : ∀ {k : K}, ¬ Thread.Owns (⟨call, .running p, []⟩ : Thread J V A ε α) k := by
    rintro k ⟨v, ⟨_, h⟩ | h | h⟩ <;> cases h
  refine ⟨hc.kept, ?_, ?_, ?_, ?_, ?_⟩
  · intro j u k v next hj hw
    rcases getElem?_snoc_cases hj with hj | ⟨_, rfl⟩
    · exact hc.writing hj hw
    · cases hw
  · intro j u hj
    rcases getElem?_snoc_cases hj with hj | ⟨_, rfl⟩
    · exact hc.tells hj
    · intro e he; cases he
  · intro j u k hj ho
    rcases getElem?_snoc_cases hj with hj | ⟨_, rfl⟩
    · exact hc.owned hj ho
    · exact absurd ho hnone
  · intro j l u w k hj hl hu hw
    rcases getElem?_snoc_cases hj with hj | ⟨_, rfl⟩
    · rcases getElem?_snoc_cases hl with hl | ⟨_, rfl⟩
      · exact hc.exclusive hj hl hu hw
      · exact absurd hw hnone
    · exact absurd hu hnone
  · intro k v hb
    rcases hc.origin hb with h | ⟨j, u, hj, hu⟩
    · exact .inl h
    · refine .inr ⟨j, u, ?_, hu⟩
      rw [List.getElem?_append_left (List.getElem?_eq_some_iff.mp hj).1]
      exact hj

omit [DecidableEq K] in
theorem Config.sound_idle (init : Files V) : (Config.idle init : Config J V A ε α).Sound init where
  kept _ _ := rfl
  writing h := by simp [Config.idle] at h
  tells h := by simp [Config.idle] at h
  owned h := by simp [Config.idle] at h
  exclusive h := by simp [Config.idle] at h
  origin h := .inl h

end Sound

theorem Config.Sound.perform (hc : c.Sound init) (h : AvoLib.perform program c m = .ok c') : c'.Sound init := by
  rcases perform_cases h with ⟨call, _, rfl⟩ | ⟨i, t, _, ht, rfl⟩ | ⟨i, n, t, files', t', _, ht, hs, rfl⟩
  · exact hc.start call _
  · exact hc.crash ht
  · exact hc.step ht hs

theorem Config.Sound.perform_grows (hc : c.Sound init) (h : AvoLib.perform program c m = .ok c') :
    Grows c.files c'.files := by
  rcases perform_cases h with ⟨call, _, rfl⟩ | ⟨i, t, _, ht, rfl⟩ | ⟨i, n, t, files', t', _, ht, hs, rfl⟩
  · exact fun _ _ hb => hb
  · exact fun _ _ hb => hb
  · exact hc.grows ht hs

theorem perform_present (h : perform program c m = .ok c') (hk : c.files k ≠ .absent) : c'.files k ≠ .absent := by
  rcases perform_cases h with ⟨call, _, rfl⟩ | ⟨i, t, _, ht, rfl⟩ | ⟨i, n, t, files', t', _, ht, hs, rfl⟩
  · exact hk
  · exact hk
  · exact hs.present hk

/-! ## What the calls obey -/

def Status.Safe (F : Files V) (G : Rules V A) (Q : List (Event V A) → Except ε α → Prop) (h : List (Event V A)) :
    Status V A ε α → Prop
  | .running p => p.Safe F G Q h
  | .writing k v next =>
    G h (.publish k v) ∧ ∀ r, Tells F (.publish k v r : Event V A) → (next r).Safe F G Q (.publish k v r :: h)
  | .crashed => True

/-- Every call obeyed its rules so far and will on every path from here, in linked
files that grew from `init` and are as its log tells. -/
def Config.Obeys (init : Files V) (Ok : Files V → (k : K) → V k → Prop) (G : J → Files V → Rules V A)
    (Q : J → Files V → List (Event V A) → Except ε α → Prop) (c : Config J V A ε α) : Prop :=
  ∀ (i : Nat) (t : Thread J V A ε α) (F : Files V), c.threads[i]? = some t → TrueOf F t.log →
    Grows init F → Linked Ok F →
      Along (G t.call F) t.log ∧ t.status.Safe F (G t.call F) (Q t.call F) t.log

omit [DecidableEq K] in
theorem Config.Sound.grown (hc : c.Sound init) : Grows init c.files := by
  intro k v hb
  rw [hc.kept k (by rw [hb]; exact fun h => (nomatch h)), hb]

section Obeys
variable {Ok : Files V → (k : K) → V k → Prop} {G : J → Files V → Rules V A}
  {Q : J → Files V → List (Event V A) → Except ε α → Prop}
  {init files files' : Files V} {t t' : Thread J V A ε α}

theorem Stepped.call (h : Stepped files t files' t') : t'.call = t.call := by
  cases h <;> rfl

theorem Stepped.safe {F : Files V} {G : Rules V A} {Q : List (Event V A) → Except ε α → Prop}
    (h : Stepped files t files' t') (hF : TrueOf F t'.log)
    (hs : Along G t.log ∧ t.status.Safe F G Q t.log) : Along G t'.log ∧ t'.status.Safe F G Q t'.log := by
  obtain ⟨hg, hs⟩ := hs
  cases h with
  | read hst r hr => rw [hst] at hs; exact ⟨⟨hs.1, hg⟩, hs.2 r hF.of_cons.1⟩
  | port hst r => rw [hst] at hs; exact ⟨⟨hs.1, hg⟩, hs.2 r⟩
  | refused hst r hr => rw [hst] at hs; exact ⟨⟨hs.1, hg⟩, hs.2 r hF.of_cons.1⟩
  | create hst hk => rw [hst] at hs; exact ⟨hg, hs⟩
  | wrote hst r hr => rw [hst] at hs; exact ⟨⟨hs.1, hg⟩, hs.2 r hF.of_cons.1⟩
  | tore hst => rw [hst] at hs; exact ⟨⟨hs.1, hg⟩, hs.2 .lost trivial⟩

variable {program : J → Prog V A ε α} {c c' : Config J V A ε α} {m : Move J A}
  {Pm : Config J V A ε α → Move J A → Prop}

theorem Config.Obeys.perform
    (hp : ∀ call F, Grows init F → Linked Ok F → (program call).Safe F (G call F) (Q call F) [])
    (hc : c.Obeys init Ok G Q) (h : AvoLib.perform program c m = .ok c') : c'.Obeys init Ok G Q := by
  intro j u F hj hF hi hl
  rcases perform_cases h with ⟨call, _, rfl⟩ | ⟨i, t, _, ht, rfl⟩ | ⟨i, n, t, files', t', _, ht, hs, rfl⟩
  · rcases getElem?_snoc_cases hj with hj | ⟨_, rfl⟩
    · exact hc _ _ F hj hF hi hl
    · exact ⟨trivial, hp call F hi hl⟩
  · rcases getElem?_set_cases hj with ⟨rfl, rfl⟩ | ⟨_, hj⟩
    · exact ⟨(hc _ _ F ht hF hi hl).1, trivial⟩
    · exact hc _ _ F hj hF hi hl
  · rcases getElem?_set_cases hj with ⟨rfl, rfl⟩ | ⟨_, hj⟩
    · rw [hs.call]
      exact hs.safe hF (hc _ _ F ht (hF.suffix hs.log) hi hl)
    · exact hc _ _ F hj hF hi hl

omit [DecidableEq K] in
theorem Config.Sound.obeys {i : Nat} (hc : c.Sound init) (hl : Linked Ok c.files) (hg : c.Obeys init Ok G Q)
    (ht : c.threads[i]? = some t) :
    Along (G t.call c.files) t.log ∧ t.status.Safe c.files (G t.call c.files) (Q t.call c.files) t.log :=
  hg i t c.files ht (hc.tells ht) hc.grown hl

theorem Linked.perform (hOk : ∀ {F F' k v}, Grows F F' → Ok F k v → Ok F' k v)
    (hG : ∀ call F h k v, G call F h (.publish k v) → Ok F k v) (hc : c.Sound init) (hg : c.Obeys init Ok G Q)
    (hl : Linked Ok c.files) (h : AvoLib.perform program c m = .ok c') : Linked Ok c'.files := by
  have hgrows := hc.perform_grows h
  intro k v hb
  rcases perform_cases h with ⟨call, _, rfl⟩ | ⟨i, t, _, ht, rfl⟩ | ⟨i, n, t, files', t', _, ht, hs, rfl⟩
  · exact hl k v hb
  · exact hl k v hb
  · rcases hs.file k with he | ⟨_, hn⟩ | ⟨w, next, hw, hn, _⟩
    · exact hOk hgrows (hl k v (he.symm.trans hb))
    · cases hn.symm.trans hb
    · cases hn.symm.trans hb
      have hsafe := (hc.obeys hl hg ht).2
      rw [hw] at hsafe
      exact hOk hgrows (hG _ _ _ _ _ hsafe.1)

theorem sound_obeys (hOk : ∀ {F F' k v}, Grows F F' → Ok F k v → Ok F' k v)
    (hG : ∀ call F h k v, G call F h (.publish k v) → Ok F k v) (hinit : Linked Ok init)
    (hp : ∀ call F, Grows init F → Linked Ok F → (program call).Safe F (G call F) (Q call F) [])
    (h : Reaches (perform program) Pm (Config.idle init) c) :
    c.Sound init ∧ Linked Ok c.files ∧ c.Obeys init Ok G Q := by
  refine h.inv (fun c => c.Sound init ∧ Linked Ok c.files ∧ c.Obeys init Ok G Q)
    ⟨Config.sound_idle init, hinit, ?_⟩ ?_
  · intro i t F ht
    simp [Config.idle] at ht
  · rintro c m c' ⟨hc, hl, hg⟩ _ hm
    exact ⟨hc.perform hm, hl.perform hOk hG hc hg hm, hg.perform hp hm⟩

theorem sound_ruled (hp : ∀ call F, (program call).Safe F (G call F) (Q call F) [])
    (h : Reaches (perform program) Pm (Config.idle init) c) :
    c.Sound init ∧ Linked (fun _ _ _ => True) c.files ∧ c.Obeys init (fun _ _ _ => True) G Q :=
  sound_obeys (fun _ _ => trivial) (fun _ _ _ _ _ _ => trivial) (fun _ _ _ => trivial) (fun call F _ _ => hp call F) h

omit [DecidableEq K] in
theorem Config.Sound.published (hc : c.Sound init) (hl : Linked Ok c.files) (hg : c.Obeys init Ok G Q) {k : K} {v : V k}
    (hb : c.files k = .bound v) : init k = .bound v ∨ ∃ (i : Nat) (t : Thread J V A ε α), c.threads[i]? = some t ∧
      ∃ h, h <:+ t.log ∧ G t.call c.files h (.publish k v) := by
  rcases hc.origin hb with hi | ⟨i, t, ht, hw⟩
  · exact .inl hi
  · right
    refine ⟨i, t, ht, ?_⟩
    rcases hw with hw | hw
    · exact (hc.obeys hl hg ht).1.rule hw
    · exact (hc.obeys hl hg ht).1.rule hw

theorem Config.Sound.created (hc : c.Sound init) (hl : Linked Ok c.files) (hg : c.Obeys init Ok G Q)
    (h : AvoLib.perform program c m = .ok c') {k : K} (hk : c.files k = .absent) (hk' : c'.files k ≠ .absent) :
    ∃ (i : Nat) (t : Thread J V A ε α) (v : V k), c.threads[i]? = some t ∧ G t.call c.files t.log (.publish k v) := by
  rcases perform_cases h with ⟨call, _, rfl⟩ | ⟨i, t, _, ht, rfl⟩ | ⟨i, n, t, files', t', _, ht, hs, rfl⟩
  · exact absurd hk hk'
  · exact absurd hk hk'
  · cases hs with
    | read | port | refused | tore => exact absurd hk hk'
    | @create k' v next hst ha =>
      by_cases hkk : k = k'
      · subst hkk
        have hsafe := (hc.obeys hl hg ht).2
        rw [hst] at hsafe
        exact ⟨i, t, v, ht, hsafe.1⟩
      · exact absurd ((c.files.put_ne _ hkk).trans hk) hk'
    | @wrote k' v next hst =>
      by_cases hkk : k = k'
      · subst hkk
        rw [hc.writing ht hst] at hk
        cases hk
      · exact absurd ((c.files.put_ne _ hkk).trans hk) hk'

end Obeys

/-! ## Two flags

Each of two calls looks for a file that the other one, or somebody before it, must
have made: when each finds the other's missing at a time when its own was there,
one of them looked too early. -/

section Flags
variable {program : J → Prog V A ε α} {Pm : Config J V A ε α → Move J A → Prop} {init : Files V}

/-- The calls that `X` tells came to it when file `a` was missing and file `b` was
there. -/
def Raised (program : J → Prog V A ε α) (Pm : Config J V A ε α → Move J A → Prop) (init : Files V) (a b : K)
    (X : Thread J V A ε α → Prop) : Prop :=
  ∀ {c c' : Config J V A ε α} {m : Move J A} {i : Nat} {t' : Thread J V A ε α}, c.Sound init → Pm c m →
    perform program c m = .ok c' → c'.threads[i]? = some t' → X t' →
    (∃ t, c.threads[i]? = some t ∧ X t) ∨ (c.files a = .absent ∧ c.files b ≠ .absent)

/-- Some call is told by `X`. -/
def Config.Has (c : Config J V A ε α) (X : Thread J V A ε α → Prop) : Prop :=
  ∃ (i : Nat) (t : Thread J V A ε α), c.threads[i]? = some t ∧ X t

variable {a b k : K} {X : Thread J V A ε α → Prop} {c : Config J V A ε α} {t' t : Thread J V A ε α}
  {files files' : Files V}

theorem Raised.present (hX : Raised program Pm init a b X) (h : Reaches (perform program) Pm (Config.idle init) c) :
    c.Has X → c.files b ≠ .absent := by
  induction h with
  | init =>
    rintro ⟨i, t, ht, _⟩
    simp [Config.idle] at ht
  | @step c c' m hc hp he ih =>
    have hsound : c.Sound init := hc.inv (Config.Sound init) (Config.sound_idle init) fun _ _ _ h _ hm => h.perform hm
    rintro ⟨i, t', ht', hx⟩
    rcases hX hsound hp he ht' hx with ⟨t, ht, hx⟩ | ⟨_, hb⟩
    · exact perform_present he (ih ⟨i, t, ht, hx⟩)
    · exact perform_present he hb

theorem Raised.exclusive {Y : Thread J V A ε α → Prop} (hX : Raised program Pm init a b X)
    (hY : Raised program Pm init b a Y) (h : Reaches (perform program) Pm (Config.idle init) c) :
    ¬ (c.Has X ∧ c.Has Y) := by
  induction h with
  | init =>
    rintro ⟨⟨i, t, ht, _⟩, _⟩
    simp [Config.idle] at ht
  | @step c c' m hc hp he ih =>
    have hsound : c.Sound init := hc.inv (Config.Sound init) (Config.sound_idle init) fun _ _ _ h _ hm => h.perform hm
    rintro ⟨⟨i, t', ht', hx⟩, ⟨j, u', hu', hy⟩⟩
    rcases hX hsound hp he ht' hx with ⟨t, ht, hx⟩ | ⟨ha, hb⟩ <;>
      rcases hY hsound hp he hu' hy with ⟨u, hu, hy⟩ | ⟨hb', ha'⟩
    · exact ih ⟨⟨i, t, ht, hx⟩, ⟨j, u, hu, hy⟩⟩
    · exact hX.present hc ⟨i, t, ht, hx⟩ hb'
    · exact hY.present hc ⟨j, u, hu, hy⟩ ha
    · exact ha' ha

/-- The log missed file `a` after it had found file `b`. -/
def Missed (a b : K) (h : List (Event V A)) : Prop :=
  ∃ h' v, .read a .missing :: h' <:+ h ∧ .read b (.found v) ∈ h'

omit [DecidableEq K] in
theorem Missed.suffix {h h' : List (Event V A)} (hm : Missed a b h) (hs : h <:+ h') : Missed a b h' := by
  obtain ⟨h₀, v, hh, hv⟩ := hm
  exact ⟨h₀, v, hh.trans hs, hv⟩

omit [DecidableEq K] in
theorem not_missed_nil : ¬ Missed a b ([] : List (Event V A)) := by
  rintro ⟨h', v, hs, _⟩
  exact absurd (List.suffix_nil.mp hs) (List.cons_ne_nil _ _)

theorem perform_log {c' : Config J V A ε α} {m : Move J A} {i : Nat} (h : perform program c m = .ok c')
    (ht' : c'.threads[i]? = some t') : t'.log = [] ∨ ∃ t, c.threads[i]? = some t ∧ t'.call = t.call ∧
      (t'.log = t.log ∨ ∃ n e, m = .step i n ∧ Stepped c.files t c'.files t' ∧ t'.log = e :: t.log) := by
  rcases perform_cases h with ⟨call, _, rfl⟩ | ⟨j, u, _, hu, rfl⟩ | ⟨j, n, u, files', u', rfl, hu, hs, rfl⟩
  · rcases getElem?_snoc_cases ht' with ht' | ⟨_, rfl⟩
    · exact .inr ⟨t', ht', rfl, .inl rfl⟩
    · exact .inl rfl
  · rcases getElem?_set_cases ht' with ⟨rfl, rfl⟩ | ⟨_, ht'⟩
    · exact .inr ⟨u, hu, rfl, .inl rfl⟩
    · exact .inr ⟨t', ht', rfl, .inl rfl⟩
  · rcases getElem?_set_cases ht' with ⟨rfl, rfl⟩ | ⟨_, ht'⟩
    · have hs' := hs
      cases hs with
      | read | port | refused | wrote | tore => exact .inr ⟨u, hu, rfl, .inr ⟨n, _, rfl, hs', rfl⟩⟩
      | create => exact .inr ⟨u, hu, rfl, .inl rfl⟩
    · exact .inr ⟨t', ht', rfl, .inl rfl⟩

theorem Stepped.read_missing (h : Stepped files t files' t') (hlog : t'.log = .read k .missing :: t.log) :
    files k = .absent ∧ files' = files ∧ ∃ next, t.status = .running (.read k next) := by
  cases h with
  | @read k' next hs r hr =>
    cases hlog
    rcases hr with hr | hr
    · cases hr
    · cases hk : files k with
      | absent => exact ⟨rfl, rfl, next, hs⟩
      | torn => rw [hk] at hr; cases hr
      | bound v => rw [hk] at hr; cases hr
  | port | refused | wrote | tore => cases hlog
  | create => exact absurd (congrArg List.length hlog) (by simp)

theorem Stepped.publish_taken {v : V k} (h : Stepped files t files' t') (hlog : t'.log = .publish k v .taken :: t.log) :
    files k ≠ .absent ∧ ∃ next, t.status = .running (.publish k v next) := by
  cases h with
  | @refused k' v' next hs r hr =>
    cases hlog
    rcases hr with hr | ⟨_, hk⟩
    · cases hr
    · exact ⟨hk, next, hs⟩
  | wrote hs r hr =>
    cases hlog
    rcases hr with hr | hr <;> cases hr
  | read | port | tore => cases hlog
  | create => exact absurd (congrArg List.length hlog) (by simp)

theorem raised_missed : Raised program Pm init a b fun t => Missed a b t.log := by
  intro c c' m i t' hc _ he ht' hx
  rcases perform_log he ht' with hnil | ⟨t, ht, _, hlog | ⟨n, e, _, hs, hlog⟩⟩
  · rw [hnil] at hx
    exact (not_missed_nil hx).elim
  · rw [hlog] at hx
    exact .inl ⟨t, ht, hx⟩
  · obtain ⟨h', v, hsuf, hv⟩ := hx
    rw [hlog] at hsuf
    rcases List.suffix_cons_iff.mp hsuf with heq | hsuf
    · cases heq
      refine .inr ⟨(hs.read_missing hlog).1, ?_⟩
      have hb : c.files b = .bound v := hc.tells ht _ hv
      rw [hb]
      exact fun h => nomatch h
    · exact .inl ⟨t, ht, h', v, hsuf, hv⟩

end Flags

/-! ## Later states of a run -/

theorem perform_thread (h : perform program c m = .ok c') (ht : c.threads[i]? = some t) :
    ∃ t', c'.threads[i]? = some t' ∧
      (t' = t ∨ t' = { t with status := .crashed } ∨ Stepped c.files t c'.files t') := by
  have hlt := (List.getElem?_eq_some_iff.mp ht).1
  rcases perform_cases h with ⟨call, _, rfl⟩ | ⟨j, u, _, hu, rfl⟩ | ⟨j, n, u, files', u', rfl, hu, hs, rfl⟩
  · refine ⟨t, ?_, .inl rfl⟩
    rw [List.getElem?_append_left hlt]
    exact ht
  · by_cases hji : j = i
    · subst hji
      rw [ht] at hu
      cases hu
      exact ⟨_, List.getElem?_set_self hlt, .inr (.inl rfl)⟩
    · exact ⟨t, by rw [List.getElem?_set_ne hji]; exact ht, .inl rfl⟩
  · by_cases hji : j = i
    · subst hji
      rw [ht] at hu
      cases hu
      exact ⟨u', List.getElem?_set_self hlt, .inr (.inr hs)⟩
    · exact ⟨t, by rw [List.getElem?_set_ne hji]; exact ht, .inl rfl⟩

theorem Reaches.thread (h : Reaches (perform program) Pm c c') (ht : c.threads[i]? = some t) :
    ∃ t', c'.threads[i]? = some t' ∧ t'.call = t.call ∧ t.log <:+ t'.log := by
  refine h.inv (fun c' => ∃ t', c'.threads[i]? = some t' ∧ t'.call = t.call ∧ t.log <:+ t'.log)
    ⟨t, ht, rfl, List.suffix_refl _⟩ ?_
  rintro c₁ m c₂ ⟨t₁, ht₁, hcall, hlog⟩ _ hm
  obtain ⟨t₂, ht₂, rfl | rfl | hs⟩ := perform_thread hm ht₁
  · exact ⟨_, ht₂, hcall, hlog⟩
  · exact ⟨_, ht₂, hcall, hlog⟩
  · exact ⟨t₂, ht₂, hs.call.trans hcall, hlog.trans hs.log⟩

theorem Reaches.calls {Ok : J → Prop}
    (h : Reaches (perform program) (fun _ m => ∀ call, m = .start call → Ok call) (Config.idle init) c) :
    ∀ (i : Nat) (t : Thread J V A ε α), c.threads[i]? = some t → Ok t.call := by
  refine h.inv (fun c => ∀ (i : Nat) (t : Thread J V A ε α), c.threads[i]? = some t → Ok t.call) ?_ ?_
  · intro i t ht
    simp [Config.idle] at ht
  · intro c₁ m c₂ ih hm hp i t ht
    rcases perform_cases hp with ⟨call, hstart, rfl⟩ | ⟨j, u, _, hu, rfl⟩ | ⟨j, n, u, files', u', _, hu, hs, rfl⟩
    · rcases getElem?_snoc_cases ht with ht | ⟨_, rfl⟩
      · exact ih i t ht
      · exact hm call hstart
    · rcases getElem?_set_cases ht with ⟨_, rfl⟩ | ⟨_, ht⟩
      · exact ih j u hu
      · exact ih i t ht
    · rcases getElem?_set_cases ht with ⟨_, rfl⟩ | ⟨_, ht⟩
      · rw [hs.call]
        exact ih j u hu
      · exact ih i t ht

theorem Reaches.stopped (h : Reaches (perform program) Pm c c') (ht : c.threads[i]? = some t)
    (hstop : ∀ files files' t', ¬ Stepped files t files' t') :
    ∃ t', c'.threads[i]? = some t' ∧ t'.call = t.call ∧ t'.log = t.log := by
  have hcrash : ∀ (files files' : Files V) (t' : Thread J V A ε α),
      ¬ Stepped files { t with status := .crashed } files' t' := by
    intro files files' t' hs
    cases hs with
    | read hs | port hs | refused hs | create hs | wrote hs | tore hs => cases hs
  have hinv : ∃ t', c'.threads[i]? = some t' ∧ (t' = t ∨ t' = { t with status := .crashed }) := by
    refine h.inv (fun c' => ∃ t', c'.threads[i]? = some t' ∧ (t' = t ∨ t' = { t with status := .crashed }))
      ⟨t, ht, .inl rfl⟩ ?_
    rintro c₁ m c₂ ⟨t₁, ht₁, hsame⟩ _ hm
    obtain ⟨t₂, ht₂, rfl | rfl | hs⟩ := perform_thread hm ht₁
    · exact ⟨_, ht₂, hsame⟩
    · refine ⟨_, ht₂, .inr ?_⟩
      rcases hsame with rfl | rfl <;> rfl
    · rcases hsame with rfl | rfl
      · exact absurd hs (hstop _ _ _)
      · exact absurd hs (hcrash _ _ _)
  obtain ⟨t', ht', rfl | rfl⟩ := hinv
  · exact ⟨_, ht', rfl, rfl⟩
  · exact ⟨_, ht', rfl, rfl⟩

/-- The call is in progress. -/
def Thread.live (t : Thread J V A ε α) : Bool :=
  match t.status with
  | .running (.done _) => false
  | .running (.raise _) => false
  | .crashed => false
  | _ => true

theorem Thread.not_stepped (h : t.live = false) (files files' : Files V) (t' : Thread J V A ε α) :
    ¬ Stepped files t files' t' := by
  intro hs
  unfold Thread.live at h
  cases hs with
  | read hst | port hst | refused hst | create hst | wrote hst | tore hst => rw [hst] at h; cases h

theorem Reaches.silent {u : Thread J V A ε α} {f : Event V A → Bool} (h : Reaches (perform program) Pm c c')
    (ht : c.threads[i]? = some t) (hlive : t.live = false) (hf : ∀ e ∈ t.log, f e = false)
    (hu : c'.threads[i]? = some u) : ∀ e ∈ u.log, f e = false := by
  obtain ⟨t', ht', _, hlog⟩ := h.stopped ht (Thread.not_stepped hlive)
  rw [hu] at ht'
  cases ht'
  rw [hlog]
  exact hf

theorem Reaches.grows (h : Reaches (perform program) Pm c c') (hc : c.Sound init) : Grows c.files c'.files := by
  suffices hs : c'.Sound init ∧ Grows c.files c'.files from hs.2
  refine h.inv (fun c' => c'.Sound init ∧ Grows c.files c'.files) ⟨hc, fun _ _ hb => hb⟩ ?_
  rintro c₁ m c₂ ⟨hc₁, hg⟩ _ hm
  exact ⟨hc₁.perform hm, fun k v hb => hc₁.perform_grows hm k v (hg k v hb)⟩

theorem Config.Sound.absent (hc : c.Sound init) (ht : c.threads[i]? = some t) (hs : Stepped c.files t files' t')
    (hn : ∀ k v next, t'.status ≠ .writing k v next) (hk : c.files k = .absent) : files' k = .absent := by
  cases hs with
  | read | port | refused | tore => exact hk
  | create => exact absurd rfl (hn _ _ _)
  | @wrote k' v next hst =>
    by_cases hkk : k = k'
    · subst hkk
      rw [hc.writing ht hst] at hk
      cases hk
    · rw [Files.put_ne _ _ hkk]
      exact hk

theorem perform_step (h : perform program c (.step i n) = .ok c') :
    ∃ t t', c.threads[i]? = some t ∧ c'.threads[i]? = some t' ∧ Stepped c.files t c'.files t' ∧
      ∀ j, j ≠ i → c'.threads[j]? = c.threads[j]? := by
  rcases perform_cases h with ⟨_, hm, _⟩ | ⟨_, _, hm, _, _⟩ | ⟨j, n, t, files', t', hm, ht, hs, rfl⟩
  · cases hm
  · cases hm
  · cases hm
    refine ⟨t, t', ht, List.getElem?_set_self (List.getElem?_eq_some_iff.mp ht).1, hs, fun j hj => ?_⟩
    exact List.getElem?_set_ne fun h => hj h.symm

theorem perform_before (h : perform program c m = .ok c') (ht' : c'.threads[i]? = some t') :
    (∃ call, m = .start call ∧ i = c.threads.length ∧ t' = ⟨call, .running (program call), []⟩) ∨
    c.threads[i]? = some t' ∨
    (∃ t, m = .crash i ∧ c.threads[i]? = some t ∧ t' = { t with status := .crashed }) ∨
    ∃ n t, m = .step i n ∧ c.threads[i]? = some t ∧ t.step n c.files = some (c'.files, t') := by
  cases m with
  | start call =>
    cases h
    rcases getElem?_snoc_cases ht' with ht' | ⟨hi, rfl⟩
    · exact .inr (.inl ht')
    · exact .inl ⟨call, rfl, hi, rfl⟩
  | crash j =>
    simp only [perform, bind_ok, orRaise_ok, pure_ok] at h
    obtain ⟨t, ht, rfl⟩ := h
    rcases getElem?_set_cases ht' with ⟨rfl, rfl⟩ | ⟨_, ht'⟩
    · exact .inr (.inr (.inl ⟨t, rfl, ht, rfl⟩))
    · exact .inr (.inl ht')
  | step j n =>
    obtain ⟨t, files', t₁, ht, hs, rfl⟩ := perform_step_ok h
    rcases getElem?_set_cases ht' with ⟨rfl, rfl⟩ | ⟨_, ht'⟩
    · exact .inr (.inr (.inr ⟨n, t, rfl, ht, hs⟩))
    · exact .inr (.inl ht')

theorem Stepped.live (h : Stepped files t files' t') : t.live = true := by
  by_contra hn
  exact Thread.not_stepped (Bool.not_eq_true _ ▸ hn) _ _ _ h

theorem perform_live (h : perform program c m = .ok c') (ht' : c'.threads[i]? = some t') (hl : t'.live = true) :
    (m = .start t'.call ∧ i = c.threads.length) ∨ ∃ t, c.threads[i]? = some t ∧ t.live = true ∧ t'.call = t.call := by
  rcases perform_before h ht' with ⟨call, rfl, hi, rfl⟩ | ht | ⟨t, _, _, rfl⟩ | ⟨n, t, _, ht, hs⟩
  · exact .inl ⟨rfl, hi⟩
  · exact .inr ⟨t', ht, hl, rfl⟩
  · cases hl
  · exact .inr ⟨t, ht, (Thread.step_cases hs).live, (Thread.step_cases hs).call⟩

theorem perform_created (h : perform program c m = .ok c') (hk : c.files k = .absent) (hk' : c'.files k ≠ .absent)
    (hw : ∀ {i : Nat} {t : Thread J V A ε α} {v : V k} {next : Published → Prog V A ε α}, c.threads[i]? = some t →
      t.status = .writing k v next → c.files k = .torn) :
    ∃ (i : Nat) (n : Nature A) (t : Thread J V A ε α) (v : V k) (next : Published → Prog V A ε α), m = .step i n ∧
      c.threads[i]? = some t ∧ t.status = .running (.publish k v next) ∧
      c'.threads[i]? = some { t with status := .writing k v next } := by
  rcases perform_cases h with ⟨call, _, rfl⟩ | ⟨i, t, _, ht, rfl⟩ | ⟨i, n, t, files', t', rfl, ht, hs, rfl⟩
  · exact absurd hk hk'
  · exact absurd hk hk'
  · cases hs with
    | read | port | refused | tore => exact absurd hk hk'
    | @create k' v next hst ha =>
      by_cases hkk : k = k'
      · subst hkk
        exact ⟨i, n, t, v, next, rfl, ht, hst, List.getElem?_set_self (List.getElem?_eq_some_iff.mp ht).1⟩
      · exact absurd ((c.files.put_ne _ hkk).trans hk) hk'
    | @wrote k' v next hst =>
      by_cases hkk : k = k'
      · subst hkk
        rw [hw ht hst] at hk
        cases hk
      · exact absurd ((c.files.put_ne _ hkk).trans hk) hk'

theorem perform_bound (h : perform program c m = .ok c') (hb : c'.files k = .bound v) :
    c.files k = .bound v ∨ ∃ (i : Nat) (n : Nature A) (t t' : Thread J V A ε α) (next : Published → Prog V A ε α),
      m = .step i n ∧ c.threads[i]? = some t ∧ t.status = .writing k v next ∧ c'.threads[i]? = some t' ∧
      t'.call = t.call ∧ (.publish k v .created ∈ t'.log ∨ n.write = .unsynced) := by
  cases m with
  | start call => cases h; exact .inl hb
  | crash i =>
    simp only [perform, bind_ok, orRaise_ok, pure_ok] at h
    obtain ⟨t, ht, rfl⟩ := h
    exact .inl hb
  | step i n =>
    obtain ⟨t, files', t', ht, hstep, rfl⟩ := perform_step_ok h
    have hi := List.getElem?_set_self (a := t') (List.getElem?_eq_some_iff.mp ht).1
    have hs := Thread.step_cases hstep
    rcases hs.file k with he | ⟨_, hn⟩ | ⟨v', next, hst, hn, hw⟩
    · exact .inl (he.symm.trans hb)
    · cases hn.symm.trans hb
    · cases hn.symm.trans hb
      refine (em (c.files k = .bound v)).imp id fun hold => ⟨i, n, t, t', next, rfl, ht, hst, hi, hs.call, ?_⟩
      rcases hw with hw | hw
      · exact .inl hw
      · by_cases hu : n.write = .unsynced
        · exact .inr hu
        · left
          unfold Thread.step at hstep
          rw [hst] at hstep
          cases hwr : n.write with
          | written => rw [hwr] at hstep; cases hstep; exact List.mem_cons_self
          | torn => rw [hwr] at hstep; cases hstep; exact absurd hb hold
          | unsynced => exact absurd hwr hu

theorem Stepped.owns_after (h : Stepped files t files' t') (ho : t.Owns k) : t'.Owns k := by
  obtain ⟨v, ⟨next, hw⟩ | ho⟩ := ho
  · cases h with
    | read hs | port hs | refused hs | create hs => rw [hw] at hs; cases hs
    | wrote hs r hr =>
      rw [hw] at hs
      cases hs
      refine ⟨v, .inr ?_⟩
      rcases hr with rfl | rfl
      · exact .inl (by simp)
      · exact .inr (by simp)
    | tore hs =>
      rw [hw] at hs
      cases hs
      exact ⟨v, .inr (.inr (by simp))⟩
  · exact ⟨v, .inr (ho.imp (h.log.mem ·) (h.log.mem ·))⟩

omit [DecidableEq K] in
theorem Thread.owns_of_crashed (h : Thread.Owns ({ t with status := .crashed } : Thread J V A ε α) k) : t.Owns k := by
  obtain ⟨v, ⟨_, h⟩ | h⟩ := h
  · cases h
  · exact ⟨v, .inr h⟩

theorem Reaches.owned (h : Reaches (perform program) Pm c c') (hk : c.files k ≠ .absent)
    (ht' : c'.threads[i]? = some t') (ho : t'.Owns k) : ∃ t, c.threads[i]? = some t ∧ t.Owns k := by
  suffices hs : c'.files k ≠ .absent ∧ ∀ (i : Nat) (t' : Thread J V A ε α), c'.threads[i]? = some t' → t'.Owns k →
      ∃ t, c.threads[i]? = some t ∧ t.Owns k from hs.2 i t' ht' ho
  refine h.inv (fun c' => c'.files k ≠ .absent ∧ ∀ (i : Nat) (t' : Thread J V A ε α), c'.threads[i]? = some t' → t'.Owns k →
      ∃ t, c.threads[i]? = some t ∧ t.Owns k) ⟨hk, fun i t ht ho => ⟨t, ht, ho⟩⟩ ?_
  rintro c₁ m c₂ ⟨hk₁, ih⟩ _ hm
  refine ⟨perform_present hm hk₁, fun i t' ht' ho => ?_⟩
  rcases perform_before hm ht' with ⟨call, _, _, rfl⟩ | ht | ⟨t, _, ht, rfl⟩ | ⟨n, t, _, ht, hs⟩
  · obtain ⟨v, ⟨_, h⟩ | h | h⟩ := ho <;> cases h
  · exact ih i t' ht ho
  · exact ih i t ht (Thread.owns_of_crashed ho)
  · rcases (Thread.step_cases hs).owns ho with ho | ⟨habsent, _⟩
    · exact ih i t ht ho
    · exact absurd habsent hk₁

theorem Stepped.missing (h : Stepped files t files' t') (hb : files k = .bound v) (hm : .read k .missing ∈ t'.log) :
    .read k .missing ∈ t.log := by
  cases h with
  | @read k' next hs r hr =>
    rcases List.mem_cons.mp hm with he | hm
    · cases he
      rcases hr with hr | hr
      · cases hr
      · rw [hb] at hr; cases hr
    · exact hm
  | port | refused | wrote | tore => simpa using hm
  | create => exact hm

theorem Reaches.never_missing (h : Reaches (perform program) Pm c c') (hc : c.Sound init) (hb : c.files k = .bound v)
    (ht : c.threads[i]? = some t) (hn : .read k .missing ∉ t.log) :
    ∃ t', c'.threads[i]? = some t' ∧ t'.call = t.call ∧ .read k .missing ∉ t'.log := by
  suffices hs : c'.Sound init ∧ c'.files k = .bound v ∧
      ∃ t', c'.threads[i]? = some t' ∧ t'.call = t.call ∧ .read k .missing ∉ t'.log from hs.2.2
  refine h.inv (fun c' => c'.Sound init ∧ c'.files k = .bound v ∧
    ∃ t', c'.threads[i]? = some t' ∧ t'.call = t.call ∧ .read k .missing ∉ t'.log) ⟨hc, hb, t, ht, rfl, hn⟩ ?_
  rintro c₁ m c₂ ⟨hc₁, hb₁, t₁, ht₁, hcall, hn₁⟩ _ hm
  refine ⟨hc₁.perform hm, hc₁.perform_grows hm k v hb₁, ?_⟩
  obtain ⟨t₂, ht₂, rfl | rfl | hs⟩ := perform_thread hm ht₁
  · exact ⟨_, ht₂, hcall, hn₁⟩
  · exact ⟨_, ht₂, hcall, hn₁⟩
  · exact ⟨t₂, ht₂, hs.call.trans hcall, fun hmiss => hn₁ (hs.missing hb₁ hmiss)⟩

theorem eq_of_countP_le_one {p : τ → Bool} (h : l.countP p ≤ 1) (hx : x ∈ l) (hy : y ∈ l) (hpx : p x = true)
    (hpy : p y = true) : x = y := by
  rw [List.countP_eq_length_filter] at h
  have hxf : x ∈ l.filter p := List.mem_filter.mpr ⟨hx, hpx⟩
  have hyf : y ∈ l.filter p := List.mem_filter.mpr ⟨hy, hpy⟩
  match hf : l.filter p, h with
  | [], _ => rw [hf] at hxf; cases hxf
  | [z], _ =>
    rw [hf] at hxf hyf
    rw [List.mem_singleton.mp hxf, List.mem_singleton.mp hyf]

theorem sum_le_one {f : τ → Nat} (h1 : ∀ x ∈ l, f x ≤ 1)
    (h2 : ∀ {i j : Nat} {x y : τ}, l[i]? = some x → l[j]? = some y → 0 < f x → 0 < f y → i = j) :
    (l.map f).sum ≤ 1 := by
  induction l with
  | nil => simp
  | cons x l ih =>
    have ihl : (l.map f).sum ≤ 1 := by
      refine ih (fun y hy => h1 y (by simp [hy])) fun hi hj hx hy => ?_
      exact Nat.succ.inj (h2 (by simpa using hi) (by simpa using hj) hx hy)
    rw [List.map_cons, List.sum_cons]
    by_cases hx : 0 < f x
    · have hzero : (l.map f).sum = 0 := by
        refine List.sum_eq_zero_iff_forall_eq_nat.mpr fun n hn => ?_
        obtain ⟨y, hy, rfl⟩ := List.mem_map.mp hn
        obtain ⟨j, hj⟩ := List.getElem?_of_mem hy
        by_contra hpos
        have hij : 0 = j + 1 := h2 (x := x) (by simp) (by simpa using hj) hx (Nat.pos_of_ne_zero hpos)
        omega
      have := h1 x (by simp)
      omega
    · omega

/-! ## One program run alone -/

namespace Prog

/-- Run a program to its end with nobody else at work and no I/O error: its
outcome, the files it leaves and its events in order. -/
def run (answer : (p : P) → A p) (files : Files V) : Prog V A ε α → Except ε α × Files V × List (Event V A)
  | .done x => (.ok x, files, [])
  | .raise e => (.error e, files, [])
  | .read k next =>
    let r := (files k).content
    ((next r).run answer files).map id (Prod.map id (.read k r :: ·))
  | .publish k v next =>
    match files k with
    | .absent =>
      ((next .created).run answer (files.put k (.bound v))).map id (Prod.map id (.publish k v .created :: ·))
    | _ => ((next .taken).run answer files).map id (Prod.map id (.publish k v .taken :: ·))
  | .port p next =>
    let r := answer p
    ((next r).run answer files).map id (Prod.map id (.port p r :: ·))

/-- Run alone, the program ends with `x`, leaves `files'` and takes no action
outside `S`. -/
def Returns (answer : (p : P) → A p) (S : Action V P → Prop) (files : Files V) (p : Prog V A ε α) (x : Except ε α)
    (files' : Files V) : Prop :=
  (p.run answer files).1 = x ∧ (p.run answer files).2.1 = files' ∧ ∀ e ∈ (p.run answer files).2.2, S e.action

variable {answer : (p : P) → A p} {S : Action V P → Prop} {files files₁ files₂ : Files V} {x : Except ε α}

variable {y : α} {e : ε} {k : K} {v : V k} {next : Published → Prog V A ε α} {f : α → Prog V A ε β}

theorem returns_done : (Prog.done y : Prog V A ε α).Returns answer S files x files₁ ↔ .ok y = x ∧ files = files₁ :=
  ⟨fun h => ⟨h.1, h.2.1⟩, fun h => ⟨h.1, h.2, fun _ he => (nomatch he)⟩⟩

theorem returns_raise : (Prog.raise e : Prog V A ε α).Returns answer S files x files₁ ↔ .error e = x ∧ files = files₁ :=
  ⟨fun h => ⟨h.1, h.2.1⟩, fun h => ⟨h.1, h.2, fun _ he => (nomatch he)⟩⟩

theorem returns_of_run {p q : Prog V A ε α} (e : Event V A)
    (h : p.run answer files = (q.run answer files₂).map id (Prod.map id (e :: ·))) :
    p.Returns answer S files x files₁ ↔ S e.action ∧ q.Returns answer S files₂ x files₁ := by
  simp only [Returns, h, Prod.map_fst, Prod.map_snd, id, List.mem_cons, forall_eq_or_imp]
  tauto

theorem returns_read {next : Found (V k) → Prog V A ε α} : (Prog.read k next).Returns answer S files x files₁ ↔
      S (.read k) ∧ (next (files k).content).Returns answer S files x files₁ :=
  returns_of_run (.read k _) rfl

theorem returns_port {q : P} {next : A q → Prog V A ε α} :
    (Prog.port q next).Returns answer S files x files₁ ↔
      S (.port q) ∧ (next (answer q)).Returns answer S files x files₁ :=
  returns_of_run (.port q _) rfl

theorem run_publish : (Prog.publish k v next).run answer files =
      match files k with
      | .absent =>
        ((next .created).run answer (files.put k (.bound v))).map id (Prod.map id (.publish k v .created :: ·))
      | _ => ((next .taken).run answer files).map id (Prod.map id (.publish k v .taken :: ·)) := rfl

theorem returns_publish (hk : files k = .absent) : (Prog.publish k v next).Returns answer S files x files₁ ↔
      S (.publish k v) ∧ (next .created).Returns answer S (files.put k (.bound v)) x files₁ :=
  returns_of_run (.publish k v .created) (by rw [run_publish, hk])

theorem returns_publish_taken (hk : files k ≠ .absent) : (Prog.publish k v next).Returns answer S files x files₁ ↔
      S (.publish k v) ∧ (next .taken).Returns answer S files x files₁ := by
  refine returns_of_run (.publish k v .taken) ?_
  rw [run_publish]
  split
  · next ha => exact absurd ha hk
  · rfl

theorem Returns.bind_outcome {p : Prog V A ε α} {z : Except ε β} (hp : p.Returns answer S files x files₁)
    (hf : (match x with | .ok y => f y | .error e => .raise e).Returns answer S files₁ z files₂) :
    (p >>= f).Returns answer S files z files₂ := by
  change (Prog.bind p f).Returns answer S files z files₂
  induction p generalizing files with
  | done w =>
    obtain ⟨rfl, rfl⟩ := returns_done.mp hp
    exact hf
  | raise e =>
    obtain ⟨rfl, rfl⟩ := returns_raise.mp hp
    exact hf
  | read k next ih => exact returns_read.mpr ⟨(returns_read.mp hp).1, ih _ (returns_read.mp hp).2⟩
  | publish k v next ih =>
    by_cases hk : files k = .absent
    · exact (returns_publish hk).mpr ⟨((returns_publish hk).mp hp).1, ih _ ((returns_publish hk).mp hp).2⟩
    · exact (returns_publish_taken hk).mpr
        ⟨((returns_publish_taken hk).mp hp).1, ih _ ((returns_publish_taken hk).mp hp).2⟩
  | port q next ih => exact returns_port.mpr ⟨(returns_port.mp hp).1, ih _ (returns_port.mp hp).2⟩

theorem Returns.bind {p : Prog V A ε α} {z : Except ε β} (hp : p.Returns answer S files (.ok y) files₁)
    (hf : (f y).Returns answer S files₁ z files₂) : (p >>= f).Returns answer S files z files₂ :=
  hp.bind_outcome hf

theorem Returns.bind_error {p : Prog V A ε α} (hp : p.Returns answer S files (.error e) files₁) :
    (p >>= f).Returns answer S files (.error e) files₁ :=
  hp.bind_outcome (returns_raise.mpr ⟨rfl, rfl⟩)

theorem Returns.mono {S' : Action V P → Prop} {p : Prog V A ε α} (hp : p.Returns answer S files x files₁)
    (hS : ∀ a, S a → S' a) : p.Returns answer S' files x files₁ :=
  ⟨hp.1, hp.2.1, fun e he => hS _ (hp.2.2 e he)⟩

theorem Returns.attempt {p : Prog V A ε α} (hp : p.Returns answer S files x files₁) :
    (p.attempt : Prog V A ε' (Except ε α)).Returns answer S files (.ok x) files₁ := by
  induction p generalizing files with
  | done w => exact returns_done.mpr ⟨by rw [(returns_done.mp hp).1], (returns_done.mp hp).2⟩
  | raise e => exact returns_done.mpr ⟨by rw [(returns_raise.mp hp).1], (returns_raise.mp hp).2⟩
  | read k next ih => exact returns_read.mpr ⟨(returns_read.mp hp).1, ih _ (returns_read.mp hp).2⟩
  | publish k v next ih =>
    by_cases hk : files k = .absent
    · exact (returns_publish hk).mpr ⟨((returns_publish hk).mp hp).1, ih _ ((returns_publish hk).mp hp).2⟩
    · exact (returns_publish_taken hk).mpr
        ⟨((returns_publish_taken hk).mp hp).1, ih _ ((returns_publish_taken hk).mp hp).2⟩
  | port q next ih => exact returns_port.mpr ⟨(returns_port.mp hp).1, ih _ (returns_port.mp hp).2⟩

theorem Returns.require {c : Prop} [Decidable c] (hc : c) :
    (Prog.require c e : Prog V A ε Unit).Returns answer S files (.ok ()) files := by
  unfold Prog.require
  rw [if_pos hc]
  exact returns_done.mpr ⟨rfl, rfl⟩

theorem Returns.ofOption {o : Option α} (ho : o = some y) :
    (Prog.ofOption o e : Prog V A ε α).Returns answer S files (.ok y) files := by
  subst ho
  exact returns_done.mpr ⟨rfl, rfl⟩

end Prog

/-- Nothing goes wrong and the ports answer as `answer` does. -/
def Nature.calm (answer : (p : P) → A p) : Nature A := ⟨false, false, .written, answer⟩

section Alone
variable {answer : (p : P) → A p} {S : Action V P → Prop} {program : J → Prog V A ε α} {c : Config J V A ε α} {i : Nat}

theorem exists_perform_step {n : Nature A} {t t' : Thread J V A ε α} {files' : Files V} (ht : c.threads[i]? = some t)
    (hs : t.step n c.files = some (files', t')) :
    ∃ c', perform program c (.step i n) = .ok c' ∧ c'.files = files' ∧ c'.threads[i]? = some t' := by
  refine ⟨⟨files', c.threads.set i t'⟩, ?_, rfl, List.getElem?_set_self (List.getElem?_eq_some_iff.mp ht).1⟩
  simp only [perform, bind_ok, orRaise_ok, pure_ok]
  exact ⟨t, ht, (files', t'), hs, rfl⟩

/-- The call at place `i` ends with `y`, after actions of `S` added to `log`. -/
def Config.Ends (c : Config J V A ε α) (i : Nat) (call : J) (y : α) (S : Action V P → Prop) (log : List (Event V A)) :
    Prop :=
  ∃ t, c.threads[i]? = some t ∧ t.call = call ∧ t.status = .running (.done y) ∧ ∀ e ∈ t.log, e ∈ log ∨ S e.action

omit [DecidableEq K] in
theorem Config.Ends.of_cons {call : J} {y : α} {e : Event V A} {log : List (Event V A)}
    (h : c.Ends i call y S (e :: log)) (he : S e.action) : c.Ends i call y S log := by
  obtain ⟨t, ht, hcall, hst, hlog⟩ := h
  refine ⟨t, ht, hcall, hst, fun e' hm => ?_⟩
  rcases hlog e' hm with hm | hs
  · rcases List.mem_cons.mp hm with rfl | hm
    · exact .inr he
    · exact .inl hm
  · exact .inr hs

theorem Prog.Returns.reaches {call : J} {p : Prog V A ε α} {log : List (Event V A)} {y : α} {files' : Files V}
    (ht : c.threads[i]? = some ⟨call, .running p, log⟩) (hp : p.Returns answer S c.files (.ok y) files') :
    ∃ c', Reaches (perform program) (fun _ m => m = .step i (.calm answer)) c c' ∧ c'.files = files' ∧
      c'.Ends i call y S log := by
  induction p generalizing c log with
  | done x =>
    obtain ⟨hx, hf⟩ := returns_done.mp hp
    cases hx
    exact ⟨c, .init, hf, _, ht, rfl, rfl, fun e he => .inl he⟩
  | raise e => cases (returns_raise.mp hp).1
  | read k next ih =>
    obtain ⟨hS, hp⟩ := returns_read.mp hp
    obtain ⟨c₁, hstep, hf₁, ht₁⟩ := exists_perform_step (n := .calm answer) ht rfl
    obtain ⟨c', hr, hf, hend⟩ := ih _ ht₁ (hf₁ ▸ hp)
    exact ⟨c', Reaches.trans (.step .init rfl hstep) hr, hf, hend.of_cons hS⟩
  | port q next ih =>
    obtain ⟨hS, hp⟩ := returns_port.mp hp
    obtain ⟨c₁, hstep, hf₁, ht₁⟩ := exists_perform_step (n := .calm answer) ht rfl
    obtain ⟨c', hr, hf, hend⟩ := ih _ ht₁ (hf₁ ▸ hp)
    exact ⟨c', Reaches.trans (.step .init rfl hstep) hr, hf, hend.of_cons hS⟩
  | publish k v next ih =>
    by_cases hk : c.files k = .absent
    · obtain ⟨hS, hp⟩ := (returns_publish hk).mp hp
      -- one step creates the file, the next writes it
      have hcreate : (⟨call, .running (.publish k v next), log⟩ : Thread J V A ε α).step (.calm answer) c.files =
          some (c.files.put k .torn, ⟨call, .writing k v next, log⟩) := by
        simp [Thread.step, Nature.calm, hk]
      obtain ⟨c₁, hstep₁, hf₁, ht₁⟩ := exists_perform_step ht hcreate
      obtain ⟨c₂, hstep₂, hf₂, ht₂⟩ := exists_perform_step (n := .calm answer) ht₁ rfl
      have hfiles : c₂.files = c.files.put k (.bound v) := by
        rw [hf₂, hf₁]
        exact Function.update_idem _ _ _
      obtain ⟨c', hr, hf, hend⟩ := ih _ ht₂ (hfiles ▸ hp)
      exact ⟨c', Reaches.trans (.step (.step .init rfl hstep₁) rfl hstep₂) hr, hf, hend.of_cons hS⟩
    · obtain ⟨hS, hp⟩ := (returns_publish_taken hk).mp hp
      have htaken : (⟨call, .running (.publish k v next), log⟩ : Thread J V A ε α).step (.calm answer) c.files =
          some (c.files, ⟨call, .running (next .taken), .publish k v .taken :: log⟩) := by
        simp only [Thread.step, Nature.calm, Bool.false_eq_true, if_false]
      obtain ⟨c₁, hstep, hf₁, ht₁⟩ := exists_perform_step ht htaken
      obtain ⟨c', hr, hf, hend⟩ := ih _ ht₁ (hf₁ ▸ hp)
      exact ⟨c', Reaches.trans (.step .init rfl hstep) hr, hf, hend.of_cons hS⟩

end Alone

end AvoLib
