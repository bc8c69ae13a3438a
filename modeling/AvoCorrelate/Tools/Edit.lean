import AvoCorrelate.Lib.Text
import AvoCorrelate.Lib.Transactions
/-!
# Replacing a text

What `replace_text` writes: the file with its line ends normalized, one text replaced by
another, the newlines at the end trimmed, and the line ends of the file put back. The old text
has to be counted once, but it is counted without overlaps, and the trimming does not look at
where the edit was. `edit_spanOnly_iff` says when the span is all that changes.
-/
open AvoLib

namespace AvoCorrelate.Tools

abbrev Text := List Char

inductive ToolPolicyError
  | policy (message : String)
  deriving DecidableEq

def normalizeNewlines (value : Text) : Text := Text.replace ['\r'] ['\n'] (Text.replace ['\r', '\n'] ['\n'] value)

def usesCrlfExclusively (value : Text) : Bool :=
  ['\r', '\n'] <:+: value ∧ '\n' ∉ Text.replace ['\r', '\n'] [] value

def rstrip (value : Text) : Text := value.rdropWhile (· = '\n')

/-- The text that replaces the content of a file. -/
def edit (original old new : Text) : Except ToolPolicyError Text := do
  let normalized := normalizeNewlines original
  let normalizedOld := normalizeNewlines old
  let normalizedNew := normalizeNewlines new
  let occurrences := Text.count normalizedOld normalized
  require (normalizedOld ≠ [] ∧ occurrences = 1)
    (.policy ("old text must occur exactly once; found " ++ toString occurrences ++ " occurrences"))
  let updated := Text.replaceFirst normalizedOld normalizedNew normalized
  let updated := if ['\n'] <:+ normalized then rstrip updated ++ ['\n'] else rstrip updated
  let newline := if usesCrlfExclusively original then ['\r', '\n'] else ['\n']
  return Text.replace ['\n'] newline updated

/-! ## Line ends -/

/-- The line ends of a file that has one kind only. -/
inductive Ending
  | lf
  | crlf
  deriving DecidableEq

def Ending.text : Ending → Text
  | .lf => ['\n']
  | .crlf => ['\r', '\n']

/-- A text with its line ends written out. -/
def Ending.expand (e : Ending) (text : Text) : Text := text.flatMap fun c => if c = '\n' then e.text else [c]

/-- A file that has no line end is written as one with newlines. -/
def Ending.own (e : Ending) (text : Text) : Ending := if '\n' ∈ text then e else .lf

theorem expand_lf (text : Text) : Ending.lf.expand text = text := by
  have hid : (fun c => if c = '\n' then Ending.lf.text else [c]) = fun c : Char => [c] := by
    funext c
    split
    · next h => rw [h, Ending.text]
    · rfl
  rw [Ending.expand, hid]
  simp

theorem expand_append (e : Ending) (a b : Text) : e.expand (a ++ b) = e.expand a ++ e.expand b := by
  simp [Ending.expand]

theorem expand_cons_newline (text : Text) : Ending.crlf.expand ('\n' :: text) = '\r' :: '\n' :: Ending.crlf.expand text :=
  rfl

variable {c : Char} {text a b new before old : Text}

theorem expand_cons (hc : c ≠ '\n') (e : Ending) (text : Text) : e.expand (c :: text) = c :: e.expand text := by
  rw [Ending.expand, List.flatMap_cons, if_neg hc]
  rfl

theorem replace_crlf_expand (h : '\r' ∉ text) (new : Text) :
    Text.replace ['\r', '\n'] new (Ending.crlf.expand text) = text.flatMap fun c => if c = '\n' then new else [c] := by
  rw [Text.replace]
  induction text with
  | nil => rfl
  | cons c text ih =>
    have htext := ih fun hmem => h (List.mem_cons_of_mem _ hmem)
    by_cases hc : c = '\n'
    · subst hc
      rw [expand_cons_newline, Text.replaceFrom, if_pos (by simp)]
      simp [Text.replaceFrom, htext]
    · have hr : '\r' ≠ c := fun heq => h (heq ▸ List.mem_cons_self)
      have hmiss : ¬ ['\r', '\n'] <+: c :: Ending.crlf.expand text := fun hp => hr (List.cons_prefix_cons.mp hp).1
      rw [expand_cons hc, Text.replaceFrom, if_neg hmiss, htext, List.flatMap_cons, if_neg hc]
      rfl

theorem normalize_expand (e : Ending) (h : '\r' ∉ text) : normalizeNewlines (e.expand text) = text := by
  have hpairs : Text.replace ['\r', '\n'] ['\n'] (e.expand text) = text := by
    cases e with
    | lf => rw [expand_lf, Text.replace_notMem h]
    | crlf =>
      rw [replace_crlf_expand h]
      exact expand_lf text
  rw [normalizeNewlines, hpairs, Text.replace_notMem h]

theorem cr_notMem_normalize (text : Text) : '\r' ∉ normalizeNewlines text := by
  rw [normalizeNewlines, Text.replace_single, List.mem_flatMap]
  rintro ⟨c, -, hc⟩
  split at hc
  · simp at hc
  · next hne => exact hne (List.mem_singleton.mp hc).symm

theorem usesCrlf_expand (e : Ending) (h : '\r' ∉ text) :
    usesCrlfExclusively (e.expand text) = true ↔ e = .crlf ∧ '\n' ∈ text := by
  simp only [usesCrlfExclusively, Bool.decide_and, Bool.and_eq_true, decide_eq_true_eq]
  cases e with
  | lf =>
    have hnone : ¬ ['\r', '\n'] <:+: Ending.lf.expand text := by
      rw [expand_lf]
      exact fun hin => h (hin.subset (by simp))
    simp [hnone]
  | crlf =>
    rw [replace_crlf_expand h]
    constructor
    · rintro ⟨hin, -⟩
      have hnewline := hin.subset (show '\n' ∈ ['\r', '\n'] by simp)
      obtain ⟨c, hc, hmem⟩ := List.mem_flatMap.mp hnewline
      split at hmem
      · next heq => exact ⟨rfl, heq ▸ hc⟩
      · next hne => exact absurd (List.mem_singleton.mp hmem).symm hne
    · rintro ⟨-, hmem⟩
      constructor
      · obtain ⟨a, b, rfl⟩ := List.append_of_mem hmem
        rw [expand_append, expand_cons_newline]
        exact ⟨Ending.crlf.expand a, Ending.crlf.expand b, by simp⟩
      · rw [List.mem_flatMap]
        rintro ⟨c, -, hc⟩
        split at hc
        · cases hc
        · next hne => exact hne (List.mem_singleton.mp hc).symm

theorem newline_expand (e : Ending) (h : '\r' ∉ text) (updated : Text) :
    Text.replace ['\n'] (if usesCrlfExclusively (e.expand text) then ['\r', '\n'] else ['\n']) updated =
      (e.own text).expand updated := by
  rw [Text.replace_single, Ending.own]
  by_cases hcrlf : e = .crlf ∧ '\n' ∈ text
  · rw [if_pos ((usesCrlf_expand e h).mpr hcrlf), if_pos hcrlf.2, hcrlf.1]
    rfl
  · rw [if_neg fun hu => hcrlf ((usesCrlf_expand e h).mp hu)]
    split
    · next hmem =>
      have hlf : e = .lf := by
        cases e with
        | lf => rfl
        | crlf => exact absurd ⟨rfl, hmem⟩ hcrlf
      rw [hlf]
      rfl
    · rfl

theorem expand_injective (e : Ending) (ha : '\r' ∉ a) (hb : '\r' ∉ b) (h : e.expand a = e.expand b) : a = b := by
  rw [← normalize_expand e ha, h, normalize_expand e hb]

theorem expand_prefix_iff (e : Ending) (ha : '\r' ∉ a) (hb : '\r' ∉ b) : e.expand a <+: e.expand b ↔ a <+: b := by
  constructor
  · cases e with
    | lf => simp [expand_lf]
    | crlf =>
      intro h
      induction a generalizing b with
      | nil => exact List.nil_prefix
      | cons c a ih =>
        have ha' : '\r' ∉ a := fun hmem => ha (List.mem_cons_of_mem _ hmem)
        cases b with
        | nil =>
          have hnil := List.prefix_nil.mp h
          by_cases hc : c = '\n'
          · simp [hc, expand_cons_newline] at hnil
          · simp [expand_cons hc] at hnil
        | cons d b =>
          have hb' : '\r' ∉ b := fun hmem => hb (List.mem_cons_of_mem _ hmem)
          have hcr : c ≠ '\r' ∧ d ≠ '\r' := ⟨fun heq => ha (by simp [heq]), fun heq => hb (by simp [heq])⟩
          by_cases hc : c = '\n'
          · by_cases hd : d = '\n'
            · rw [hc, hd, expand_cons_newline, expand_cons_newline, List.cons_prefix_cons, List.cons_prefix_cons] at h
              rw [hc, hd, List.cons_prefix_cons]
              exact ⟨rfl, ih ha' hb' h.2.2⟩
            · rw [hc, expand_cons_newline, expand_cons hd, List.cons_prefix_cons] at h
              exact absurd h.1.symm hcr.2
          · by_cases hd : d = '\n'
            · rw [hd, expand_cons_newline, expand_cons hc, List.cons_prefix_cons] at h
              exact absurd h.1 hcr.1
            · rw [expand_cons hc, expand_cons hd, List.cons_prefix_cons] at h
              rw [List.cons_prefix_cons]
              exact ⟨h.1, ih ha' hb' h.2⟩
  · rintro ⟨t, rfl⟩
    rw [expand_append]
    exact List.prefix_append _ _

/-! ## Trimming -/

theorem rstrip_newline (text : Text) : rstrip (text ++ ['\n']) = rstrip text :=
  List.rdropWhile_concat_pos _ _ _ (by decide)

theorem rstrip_concat (hc : c ≠ '\n') (text : Text) : rstrip (text ++ [c]) = text ++ [c] :=
  List.rdropWhile_concat_neg _ _ _ (by simpa using hc)

theorem rstrip_eq_self : rstrip text = text ↔ ¬ ['\n'] <:+ text := by
  rcases List.eq_nil_or_concat text with rfl | ⟨front, c, rfl⟩
  · simp [rstrip]
  · rw [List.concat_eq_append, List.singleton_suffix_append_singleton_iff]
    constructor
    · rintro h rfl
      rw [rstrip_newline] at h
      have hlen := (List.rdropWhile_prefix (fun c => decide (c = '\n')) front).length_le
      rw [← rstrip, h, List.length_append, List.length_singleton] at hlen
      omega
    · intro hc
      exact rstrip_concat (fun heq => hc heq.symm) front

/-- The end of a file as it is written: one newline, if there was one before. -/
def trim (ends : Prop) [Decidable ends] (updated : Text) : Text :=
  if ends then rstrip updated ++ ['\n'] else rstrip updated

theorem trim_eq_self : trim (['\n'] <:+ text) text = text ↔ ¬ ['\n', '\n'] <:+ text := by
  rcases List.eq_nil_or_concat text with rfl | ⟨front, c, rfl⟩
  · simp [trim, rstrip]
  · rw [List.concat_eq_append]
    have htwo : ['\n', '\n'] <:+ front ++ [c] ↔ c = '\n' ∧ ['\n'] <:+ front := by
      have hpair : ['\n', '\n'] = ['\n'] ++ ['\n'] := rfl
      rw [hpair, List.suffix_concat_iff]
      constructor
      · rintro (hnil | ⟨t, ht, hsuffix⟩)
        · simp at hnil
        · obtain ⟨rfl, hc⟩ := List.append_inj' ht rfl
          exact ⟨by simpa using hc.symm, hsuffix⟩
      · rintro ⟨rfl, hsuffix⟩
        exact .inr ⟨['\n'], rfl, hsuffix⟩
    have hends : ['\n'] <:+ front ++ [c] ↔ '\n' = c := List.singleton_suffix_append_singleton_iff
    by_cases hc : c = '\n'
    · subst hc
      rw [trim, if_pos (hends.mpr rfl), rstrip_newline, List.append_left_inj, rstrip_eq_self, htwo]
      simp
    · rw [trim, if_neg fun h => hc (hends.mp h).symm, rstrip_concat hc, htwo]
      simp [hc]

theorem rstrip_append (h : ∃ c ∈ new, c ≠ '\n') (before : Text) : rstrip (before ++ new) = before ++ rstrip new := by
  induction new using List.reverseRecOn with
  | nil => simp at h
  | append_singleton new c ih =>
    rw [← List.append_assoc]
    by_cases hc : c = '\n'
    · subst hc
      obtain ⟨d, hd, hne⟩ := h
      rcases List.mem_append.mp hd with hd | hd
      · rw [rstrip_newline, rstrip_newline, ih ⟨d, hd, hne⟩]
      · exact absurd (List.mem_singleton.mp hd) hne
    · rw [rstrip_concat hc, rstrip_concat hc, List.append_assoc]

theorem rstrip_append_newlines (h : ∀ c ∈ new, c = '\n') (before : Text) : rstrip (before ++ new) = rstrip before := by
  induction new using List.reverseRecOn with
  | nil => simp
  | append_singleton new c ih =>
    obtain rfl := h c (by simp)
    rw [← List.append_assoc, rstrip_newline, ih fun d hd => h d (by simp [hd])]

theorem newline_suffix_append (hb : b ≠ []) : ['\n'] <:+ a ++ b ↔ ['\n'] <:+ b := by
  rw [List.singleton_suffix_iff_getLast?_eq_some, List.singleton_suffix_iff_getLast?_eq_some,
    List.getLast?_append_of_ne_nil _ hb]

theorem before_prefix_trim {ends : Prop} [Decidable ends] : before <+: trim ends (before ++ new) ↔
      (∃ c ∈ new, c ≠ '\n') ∨ ¬ ['\n'] <:+ before ∨ ends ∧ ¬ ['\n', '\n'] <:+ before := by
  by_cases hnew : ∃ c ∈ new, c ≠ '\n'
  · rw [trim, rstrip_append hnew]
    refine iff_of_true ?_ (.inl hnew)
    split
    · exact ⟨rstrip new ++ ['\n'], by simp⟩
    · exact List.prefix_append _ _
  · have hnewlines : ∀ c ∈ new, c = '\n' := by
      intro c hc
      by_contra hne
      exact hnew ⟨c, hc, hne⟩
    rw [trim, rstrip_append_newlines hnewlines]
    by_cases hbefore : ['\n'] <:+ before
    · have hshort : (rstrip before).length < before.length := by
        obtain ⟨front, rfl⟩ := hbefore
        have := (List.rdropWhile_prefix (fun c => decide (c = '\n')) front).length_le
        rw [rstrip_newline, rstrip, List.length_append, List.length_singleton]
        omega
      split
      · next hends =>
        have htrim : trim (['\n'] <:+ before) before = rstrip before ++ ['\n'] := if_pos hbefore
        rw [← trim_eq_self, htrim]
        constructor
        · intro hp
          have hlen : before.length = (rstrip before ++ ['\n']).length := by
            have := hp.length_le
            rw [List.length_append, List.length_singleton] at this ⊢
            omega
          exact .inr (.inr ⟨hends, (hp.eq_of_length hlen).symm⟩)
        · rintro (hn | hn | ⟨-, heq⟩)
          · exact absurd hn hnew
          · exact absurd hbefore hn
          · rw [heq]
      · next hends =>
        constructor
        · intro hp
          have := hp.length_le
          omega
        · rintro (hn | hn | ⟨he, -⟩)
          · exact absurd hn hnew
          · exact absurd hbefore hn
          · exact absurd he hends
    · refine iff_of_true ?_ (.inr (.inl hbefore))
      rw [rstrip_eq_self.mpr hbefore]
      split
      · exact List.prefix_append _ _
      · exact List.prefix_refl _

/-! ## One span -/

/-- The old text is at one place, and what is written is the file with the new text there: to the
letter unless the edit reaches the end of the file, and up to the span in any case. -/
structure SpanOnly (e : Ending) (text old new written : Text) : Prop where
  one : ∃ before after, text = before ++ old ++ after ∧
    ∀ before' after', text = before' ++ old ++ after' → before' = before
  inside : ∀ before after, text = before ++ old ++ after → after ≠ [] →
    written = (e.own text).expand (before ++ new ++ after)
  outside : ∀ before after, text = before ++ old ++ after → (e.own text).expand before <+: written

def SelfOverlaps (old text : Text) : Prop :=
  ∃ i k, 0 < k ∧ k < old.length ∧ old <+: text.drop i ∧ old <+: text.drop (i + k)

/-- The trimming at the end of the file meets only what was put in. -/
def TrimsInside (text old new : Text) : Prop :=
  ∀ before after, text = before ++ old ++ after →
    (after ≠ [] → ¬ ['\n', '\n'] <:+ before ++ new ++ after) ∧
    (after = [] → (∃ c ∈ new, c ≠ '\n') ∨ ¬ ['\n'] <:+ before ∨ ['\n'] <:+ old ∧ ¬ ['\n', '\n'] <:+ before)

theorem prefix_drop {after : Text} (h : text = before ++ old ++ after) : old <+: text.drop before.length := by
  rw [h, List.append_assoc, List.drop_left]
  exact List.prefix_append _ _

theorem one_iff_not_selfOverlaps (hold : old ≠ []) (h : Text.countFrom old 0 text = 1) :
    (∃ before after, text = before ++ old ++ after ∧
      ∀ before' after', text = before' ++ old ++ after' → before' = before) ↔ ¬ SelfOverlaps old text := by
  obtain ⟨first, rest, htext, -, hlater, hearlier⟩ := Text.once_of_count (n := []) hold h
  constructor
  · rintro ⟨before, after, -, hone⟩ ⟨i, k, hk, hlen, hi, hik⟩
    have hplace : ∀ j, old <+: text.drop j → text.take j = before := by
      rintro j ⟨after', hafter⟩
      refine hone _ after' ?_
      rw [List.append_assoc, hafter, List.take_append_drop]
    have hsame : (text.take i).length = (text.take (i + k)).length := by rw [hplace i hi, hplace (i + k) hik]
    have hroom := hik.length_le
    rw [List.length_drop] at hroom
    rw [List.length_take, List.length_take] at hsame
    omega
  · intro hover
    refine ⟨first, rest, htext, ?_⟩
    intro before after hbefore
    have hat := prefix_drop hbefore
    have hnotEarlier : first.length ≤ before.length := by
      by_contra hlt
      exact hearlier before.length (Nat.not_le.mp hlt) hat
    have hnotLater : ¬ first.length < before.length := by
      intro hlt
      by_cases hnear : before.length - first.length < old.length
      · refine hover ⟨first.length, before.length - first.length, by omega, hnear, prefix_drop htext, ?_⟩
        rwa [Nat.add_sub_of_le hnotEarlier]
      · -- After the first place and its length, the text has no further one.
        have hdrop : text.drop before.length = rest.drop (before.length - (first ++ old).length) := by
          rw [htext, List.drop_append, List.drop_of_length_le (by rw [List.length_append]; omega), List.nil_append]
        rw [hdrop] at hat
        have hroom := hat.length_le
        rw [List.length_drop] at hroom
        have hpos := List.length_pos_iff.mpr hold
        exact Text.not_prefix_of_count hlater _ (by omega) hat
    have hlen : before.length = first.length := by omega
    rw [hbefore, List.append_assoc, List.append_assoc] at htext
    exact (List.append_inj htext hlen).1

/-! ## What is written -/

section Written
variable {e : Ending} {text old new written : Text}

theorem edit_ok (htext : '\r' ∉ text) :
    edit (e.expand text) old new = .ok written ↔
      normalizeNewlines old ≠ [] ∧ Text.countFrom (normalizeNewlines old) 0 text = 1 ∧
        (e.own text).expand (trim (['\n'] <:+ text)
          (Text.replaceFirst (normalizeNewlines old) (normalizeNewlines new) text)) = written := by
  simp only [edit, normalize_expand e htext, newline_expand e htext, bind_ok, require_ok, pure_ok]
  constructor
  · rintro ⟨_, ⟨hne, hcount⟩, hwritten⟩
    rw [Text.count, if_neg hne] at hcount
    exact ⟨hne, hcount, hwritten⟩
  · rintro ⟨hne, hcount, hwritten⟩
    rw [Text.count, if_neg hne]
    exact ⟨(), ⟨hne, hcount⟩, hwritten⟩

theorem cr_notMem_trim {ends : Prop} [Decidable ends] (h : '\r' ∉ text) : '\r' ∉ trim ends text := by
  have hstrip : '\r' ∉ rstrip text := fun hmem => h ((List.rdropWhile_prefix _ _).subset hmem)
  rw [trim]
  split
  · simp [hstrip]
  · exact hstrip

theorem edit_spanOnly_iff (htext : '\r' ∉ text) (h : edit (e.expand text) old new = .ok written) :
    SpanOnly e text (normalizeNewlines old) (normalizeNewlines new) written ↔
      ¬ SelfOverlaps (normalizeNewlines old) text ∧ TrimsInside text (normalizeNewlines old) (normalizeNewlines new) := by
  have hnew := cr_notMem_normalize new
  obtain ⟨hold, hcount, rfl⟩ := (edit_ok htext).mp h
  clear h
  revert hold hcount hnew
  generalize normalizeNewlines old = o
  generalize normalizeNewlines new = n
  intro hnew hold hcount
  obtain ⟨first, rest, hfirst, hreplaced, -, -⟩ := Text.once_of_count (n := n) hold hcount
  rw [hreplaced]
  have hone := one_iff_not_selfOverlaps hold hcount
  -- Where the old text is at one place only, that is the place of the edit.
  have hat : ¬ SelfOverlaps o text → ∀ before after, text = before ++ o ++ after → before = first ∧ after = rest := by
    intro hover before after hbefore
    obtain ⟨b, a, -, huniq⟩ := hone.mpr hover
    have hb : before = first := (huniq _ _ hbefore).trans (huniq _ _ hfirst).symm
    refine ⟨hb, ?_⟩
    rw [hb, hfirst] at hbefore
    exact (List.append_cancel_left hbefore).symm
  have hcr : '\r' ∉ first ++ n ++ rest := by
    rw [hfirst] at htext
    simp only [List.mem_append, not_or] at htext ⊢
    exact ⟨⟨htext.1.1, hnew⟩, htext.2⟩
  have hcrFirst : '\r' ∉ first := fun hmem => hcr (by simp [hmem])
  have htrim : rest ≠ [] → (trim (['\n'] <:+ text) (first ++ n ++ rest) = first ++ n ++ rest ↔
      ¬ ['\n', '\n'] <:+ first ++ n ++ rest) := by
    intro hrest
    have hends : ['\n'] <:+ text ↔ ['\n'] <:+ first ++ n ++ rest := by
      rw [hfirst, newline_suffix_append hrest, newline_suffix_append hrest]
    rw [← trim_eq_self]
    simp only [trim, hends]
  have hkeeps : rest = [] → (first <+: trim (['\n'] <:+ text) (first ++ n ++ rest) ↔
      (∃ c ∈ n, c ≠ '\n') ∨ ¬ ['\n'] <:+ first ∨ ['\n'] <:+ o ∧ ¬ ['\n', '\n'] <:+ first) := by
    rintro rfl
    have hends : ['\n'] <:+ text ↔ ['\n'] <:+ o := by rw [hfirst, List.append_nil, newline_suffix_append hold]
    rw [List.append_nil, before_prefix_trim, hends]
  constructor
  · intro hspan
    have hover := hone.mp hspan.one
    refine ⟨hover, ?_⟩
    intro before after hbefore
    obtain ⟨rfl, rfl⟩ := hat hover before after hbefore
    constructor
    · intro hrest
      exact (htrim hrest).mp (expand_injective _ (cr_notMem_trim hcr) hcr (hspan.inside _ _ hbefore hrest))
    · intro hrest
      exact (hkeeps hrest).mp ((expand_prefix_iff _ hcrFirst (cr_notMem_trim hcr)).mp (hspan.outside _ _ hbefore))
  · rintro ⟨hover, hinside⟩
    refine ⟨hone.mpr hover, ?_, ?_⟩
    · intro before after hbefore hrest
      obtain ⟨rfl, rfl⟩ := hat hover before after hbefore
      rw [(htrim hrest).mpr ((hinside _ _ hbefore).1 hrest)]
    · intro before after hbefore
      obtain ⟨rfl, rfl⟩ := hat hover before after hbefore
      refine (expand_prefix_iff _ hcrFirst (cr_notMem_trim hcr)).mpr ?_
      by_cases hrest : after = []
      · exact (hkeeps hrest).mpr ((hinside _ _ hbefore).2 hrest)
      · rw [(htrim hrest).mpr ((hinside _ _ hbefore).1 hrest), List.append_assoc]
        exact List.prefix_append _ _

end Written

end AvoCorrelate.Tools
