import HurlHtml.Escape
import Mathlib.Data.List.Chain

/-!
# The markup language of the output

`Seq` is the content language of the no-injection property: character data other than
`<`, `>`, `&`, the three entities, and `<span>` elements with a plain class, properly nested
and closed. `Scan` recognises it one character at a time with a nesting depth. `Closes d`
says what a depth of `d` still demands of the text; through it every accepting run of the
scan has a derivation, and every derivation is accepted.

Two characters may stand side by side in a text of the language only as the language's own
words put them: a `<` begins `<span` or `</span>`, a `&` begins an entity, and a `>` ends a
class attribute or a closing tag. Every text of the language keeps to this (`Seq.tidy`), which
is what a string written into the output without escape has to respect.
-/

namespace HurlHtml.Markup

/-- Character data: anything but `<`, `>` and `&`. -/
def TextChar (c : Char) : Prop := c ≠ '<' ∧ c ≠ '>' ∧ c ≠ '&'

/-- A class attribute value holds no `"`, `<`, `>` or `&`. -/
def ClassName (cls : List Char) : Prop := '"' ∉ cls ∧ '<' ∉ cls ∧ '>' ∉ cls ∧ '&' ∉ cls

instance : DecidablePred ClassName := fun _ => inferInstanceAs (Decidable (_ ∧ _ ∧ _ ∧ _))

def spanOpen (cls : List Char) : List Char := "<span class=\"".data ++ cls ++ "\">".data

def spanClose : List Char := "</span>".data

def preOpen : List Char := "<pre><code class=\"language-hurl\">".data

def preClose : List Char := "</code></pre>".data

inductive Seq : List Char → Prop where
  | nil : Seq []
  | text {c rest} (hc : TextChar c) (h : Seq rest) : Seq (c :: rest)
  | entity {e rest} (he : e = "&amp;".data ∨ e = "&lt;".data ∨ e = "&gt;".data) (h : Seq rest) :
      Seq (e ++ rest)
  | span {cls body rest} (hc : ClassName cls) (hb : Seq body) (h : Seq rest) :
      Seq (spanOpen cls ++ body ++ spanClose ++ rest)

/-- A `<pre><code class="language-hurl">` block around markup content. -/
def IsDoc (s : String) : Prop := ∃ body, s.data = preOpen ++ body ++ preClose ∧ Seq body

theorem Seq.append {a b : List Char} (ha : Seq a) (hb : Seq b) : Seq (a ++ b) := by
  induction ha with
  | nil => exact hb
  | text hc _ ih => exact .text hc ih
  | entity he _ ih => rw [List.append_assoc]; exact .entity he ih
  | span hc hbody _ _ ih => simpa only [List.append_assoc] using Seq.span hc hbody ih

theorem Seq.spanOf {cls body : List Char} (hc : ClassName cls) (hb : Seq body) :
    Seq (spanOpen cls ++ body ++ spanClose) := by
  simpa using Seq.span hc hb .nil

/-- What a nesting depth of `d` demands: `d` closing tags, with content between them. -/
def Closes : Nat → List Char → Prop
  | 0, w => Seq w
  | d + 1, w => ∃ a b, w = a ++ spanClose ++ b ∧ Seq a ∧ Closes d b

theorem Closes.prepend {x w : List Char} (hx : Seq x) : ∀ {d}, Closes d w → Closes d (x ++ w)
  | 0, h => hx.append h
  | _ + 1, ⟨a, b, hw, ha, hb⟩ => ⟨x ++ a, b, by simp [hw], hx.append ha, hb⟩

/-- A state of the scan: in text, after `<`, after `&`, inside a class name, or expecting a
fixed word before going on. Each carries the number of open spans. -/
inductive Scan where
  | text (depth : Nat)
  | tag (depth : Nat)
  | amp (depth : Nat)
  | cls (depth : Nat)
  | expect (w : List Char) (next : Scan)
  deriving DecidableEq

def Scan.expectThen : List Char → Scan → Scan
  | [], next => next
  | c :: w, next => .expect (c :: w) next

def Scan.step : Scan → Char → Option Scan
  | .text d, c =>
    if c = '<' then some (.tag d) else if c = '&' then some (.amp d)
    else if c = '>' then none else some (.text d)
  | .tag d, c =>
    if c = 's' then some (.expect "pan class=\"".data (.cls d))
    else if c = '/' then (match d with | 0 => none | d + 1 => some (.expect "span>".data (.text d)))
    else none
  | .amp d, c =>
    if c = 'a' then some (.expect "mp;".data (.text d))
    else if c = 'l' ∨ c = 'g' then some (.expect "t;".data (.text d)) else none
  | .cls d, c =>
    if c = '"' then some (.expect ">".data (.text (d + 1)))
    else if c = '<' ∨ c = '>' ∨ c = '&' then none else some (.cls d)
  | .expect [] next, c => next.step c
  | .expect (w :: ws) next, c => if c = w then some (Scan.expectThen ws next) else none

def Scan.exec : Scan → List Char → Option Scan
  | st, [] => some st
  | st, c :: cs => (st.step c).bind (·.exec cs)

namespace Scan

variable (d : Nat) (rest : List Char)

theorem exec_text_cons {c : Char} (hc : TextChar c) :
    (text d).exec (c :: rest) = (text d).exec rest := by
  obtain ⟨h1, h2, h3⟩ := hc
  simp [exec, step, h1, h2, h3]

theorem exec_escapeChar (c : Char) : (text d).exec (escapeChar c ++ rest) = (text d).exec rest := by
  rcases em (c = '&') with rfl | h1; · rfl
  rcases em (c = '<') with rfl | h2; · rfl
  rcases em (c = '>') with rfl | h3; · rfl
  simp only [escapeChar, h1, h2, h3, if_false, List.singleton_append]
  exact exec_text_cons d rest ⟨h2, h3, h1⟩

theorem exec_cls {w : List Char} (hw : ClassName w) : (cls d).exec (w ++ rest) = (cls d).exec rest := by
  obtain ⟨h1, h2, h3, h4⟩ := hw
  induction w with
  | nil => rfl
  | cons c w ih =>
    simp only [List.mem_cons, not_or] at h1 h2 h3 h4
    simp [exec, step, Ne.symm h1.1, Ne.symm h2.1, Ne.symm h3.1, Ne.symm h4.1, ih h1.2 h2.2 h3.2 h4.2]

theorem exec_spanOpen {w : List Char} (hw : ClassName w) :
    (text d).exec (spanOpen w ++ rest) = (text (d + 1)).exec rest := by
  have hopen : ∀ r, (text d).exec ("<span class=\"".data ++ r) = (cls d).exec r := fun _ => rfl
  have hclose : (cls d).exec ("\">".data ++ rest) = (text (d + 1)).exec rest := rfl
  rw [spanOpen, List.append_assoc, List.append_assoc, hopen, exec_cls d _ hw, hclose]

theorem exec_spanClose : (text (d + 1)).exec (spanClose ++ rest) = (text d).exec rest := rfl

/-- What a state still demands of the rest of the text. -/
def Lang : Scan → List Char → Prop
  | .text d, w => Closes d w
  | .tag d, w =>
    (∃ c r, w = "span class=\"".data ++ c ++ "\">".data ++ r ∧ ClassName c ∧ Closes (d + 1) r) ∨
    (∃ d' r, d = d' + 1 ∧ w = "/span>".data ++ r ∧ Closes d' r)
  | .amp d, w => ∃ e r, w = e ++ r ∧ (e = "amp;".data ∨ e = "lt;".data ∨ e = "gt;".data) ∧ Closes d r
  | .cls d, w => ∃ c r, w = c ++ "\">".data ++ r ∧ ClassName c ∧ Closes (d + 1) r
  | .expect ws next, w => ∃ r, w = ws ++ r ∧ next.Lang r

theorem lang_expectThen {ws : List Char} {next : Scan} {w : List Char} :
    (expectThen ws next).Lang w ↔ ∃ r, w = ws ++ r ∧ next.Lang r := by
  cases ws <;> simp [expectThen, Lang]

/-- One step of the scan keeps what the states demand. -/
theorem step_lang {st : Scan} {c : Char} {st' : Scan} {w : List Char} (h : st.step c = some st')
    (hl : st'.Lang w) : st.Lang (c :: w) := by
  induction st generalizing c st' w with
  | text d =>
    simp only [step] at h
    split_ifs at h with h1 h2 h3 <;> cases h
    · subst h1
      rcases hl with ⟨k, r, rfl, hk, a, b, rfl, ha, hb⟩ | ⟨d', r, rfl, rfl, hr⟩
      · simpa [spanOpen] using Closes.prepend (Seq.spanOf hk ha) hb
      · exact ⟨[], r, by simp [spanClose], .nil, hr⟩
    · subst h2
      obtain ⟨e, r, rfl, he, hr⟩ := hl
      have hs : Seq ('&' :: e ++ []) :=
        .entity (by rcases he with rfl | rfl | rfl <;> simp) .nil
      simpa using Closes.prepend hs hr
    · exact Closes.prepend (x := [c]) (.text ⟨h1, h3, h2⟩ .nil) hl
  | tag d =>
    simp only [step] at h
    split_ifs at h with h1 h2
    · cases h; subst h1
      obtain ⟨r, rfl, k, r', rfl, hk, hr⟩ := hl
      exact .inl ⟨k, r', by simp, hk, hr⟩
    · subst h2
      cases d with
      | zero => cases h
      | succ d => cases h; obtain ⟨r, rfl, hr⟩ := hl; exact .inr ⟨d, r, rfl, by simp, hr⟩
  | amp d =>
    simp only [step] at h
    split_ifs at h with h1 h2 <;> cases h
    · subst h1; obtain ⟨r, rfl, hr⟩ := hl; exact ⟨"amp;".data, r, by simp, .inl rfl, hr⟩
    · obtain ⟨r, rfl, hr⟩ := hl
      rcases h2 with rfl | rfl
      · exact ⟨"lt;".data, r, by simp, .inr (.inl rfl), hr⟩
      · exact ⟨"gt;".data, r, by simp, .inr (.inr rfl), hr⟩
  | cls d =>
    simp only [step] at h
    split_ifs at h with h1 h2 <;> cases h
    · subst h1; obtain ⟨r, rfl, hr⟩ := hl
      exact ⟨[], r, by simp, by simp [ClassName], hr⟩
    · obtain ⟨k, r, rfl, ⟨k1, k2, k3, k4⟩, hr⟩ := hl
      simp only [not_or] at h2
      exact ⟨c :: k, r, by simp, by simp_all [ClassName, eq_comm], hr⟩
  | expect ws next ih =>
    cases ws with
    | nil => exact ⟨c :: w, rfl, ih (by simpa [step] using h) hl⟩
    | cons x ws =>
      simp only [step] at h
      split_ifs at h with hx
      cases h; subst hx
      obtain ⟨r, rfl, hr⟩ := lang_expectThen.mp hl
      exact ⟨r, rfl, hr⟩

theorem exec_lang {st : Scan} {w : List Char} (h : st.exec w = some (.text 0)) : st.Lang w := by
  induction w generalizing st with
  | nil => simp only [exec, Option.some.injEq] at h; subst h; exact .nil
  | cons c w ih =>
    simp only [exec, Option.bind_eq_some] at h
    obtain ⟨st', hs, hw⟩ := h
    exact step_lang hs (ih hw)

end Scan

/-- Soundness of the recogniser: an accepted text is in the language. -/
theorem seq_of_exec {w : List Char} (h : (Scan.text 0).exec w = some (.text 0)) : Seq w :=
  Scan.exec_lang h

/-- Completeness of the recogniser: the text of a derivation is read at any depth. -/
theorem Seq.exec {w : List Char} (hw : Seq w) (d : Nat) (rest : List Char) :
    (Scan.text d).exec (w ++ rest) = (Scan.text d).exec rest := by
  induction hw generalizing d rest with
  | nil => rfl
  | text hc _ ih => rw [List.cons_append, Scan.exec_text_cons d _ hc, ih]
  | entity he _ ih =>
    rw [List.append_assoc]
    rcases he with rfl | rfl | rfl
    · exact (Scan.exec_escapeChar d _ '&').trans (ih d rest)
    · exact (Scan.exec_escapeChar d _ '<').trans (ih d rest)
    · exact (Scan.exec_escapeChar d _ '>').trans (ih d rest)
  | span hc _ _ ihb ihr =>
    simp only [List.append_assoc]
    rw [Scan.exec_spanOpen d _ hc, ihb, Scan.exec_spanClose, ihr]

theorem isDoc_iff (body : List Char) : IsDoc ⟨preOpen ++ body ++ preClose⟩ ↔ Seq body := by
  constructor
  · rintro ⟨b, hb, hs⟩
    simp only [List.append_cancel_right_eq, List.append_cancel_left_eq] at hb
    exact hb ▸ hs
  · exact fun h => ⟨body, rfl, h⟩

/-- The recogniser decides the language. -/
theorem isDoc_iff_exec (body : List Char) :
    IsDoc ⟨preOpen ++ body ++ preClose⟩ ↔ (Scan.text 0).exec body = some (.text 0) := by
  rw [isDoc_iff]
  exact ⟨fun h => by simpa [Scan.exec] using h.exec 0 [], seq_of_exec⟩

instance (body : List Char) : Decidable (IsDoc ⟨preOpen ++ body ++ preClose⟩) :=
  decidable_of_iff _ (isDoc_iff_exec body).symm

/-- Two characters that may stand side by side in markup content. -/
def Adjacent (a b : Char) : Prop :=
  (a = '<' → b = 's' ∨ b = '/') ∧ (a = '&' → b = 'a' ∨ b = 'l' ∨ b = 'g') ∧
    (b = '>' → a = '"' ∨ a = 'n')

instance : DecidableRel Adjacent := fun _ _ => inferInstanceAs (Decidable (_ ∧ _ ∧ _))

/-- `List.decidableChain'` is built by rewriting and does not evaluate; this one does. -/
instance decidableChainAdjacent : (w : List Char) → Decidable (w.Chain' Adjacent)
  | [] => isTrue List.chain'_nil
  | [_] => isTrue (List.chain'_singleton _)
  | a :: b :: w =>
    have := decidableChainAdjacent (b :: w)
    decidable_of_iff (Adjacent a b ∧ (b :: w).Chain' Adjacent) List.chain'_cons.symm

/-- What every text of the language keeps: permitted neighbours, no `>` first, and no `<`
or `&` last, so that two such texts can be put side by side. -/
structure Tidy (w : List Char) : Prop where
  chain : w.Chain' Adjacent
  head : ∀ c ∈ w.head?, c ≠ '>'
  last : ∀ c ∈ w.getLast?, c ≠ '<' ∧ c ≠ '&'

instance : DecidablePred Tidy := fun w =>
  decidable_of_iff (w.Chain' Adjacent ∧ (∀ c ∈ w.head?, c ≠ '>') ∧
    ∀ c ∈ w.getLast?, c ≠ '<' ∧ c ≠ '&') ⟨fun ⟨a, b, c⟩ => ⟨a, b, c⟩, fun ⟨a, b, c⟩ => ⟨a, b, c⟩⟩

theorem Tidy.append {a b : List Char} (ha : Tidy a) (hb : Tidy b) : Tidy (a ++ b) where
  chain := List.chain'_append.mpr ⟨ha.chain, hb.chain, fun x hx y hy =>
    ⟨fun h => absurd h (ha.last x hx).1, fun h => absurd h (ha.last x hx).2,
      fun h => absurd h (hb.head y hy)⟩⟩
  head := by
    cases a with
    | nil => exact hb.head
    | cons x a => exact ha.head
  last c hc := by
    rw [List.getLast?_append] at hc
    cases h : b.getLast? with
    | none => rw [h] at hc; exact ha.last c hc
    | some x => rw [h] at hc; exact hb.last c (by simpa [h] using hc)

theorem tidy_of_textChars {w : List Char} (hw : ∀ c ∈ w, TextChar c) : Tidy w := by
  induction w with
  | nil => exact ⟨List.chain'_nil, by simp, by simp⟩
  | cons c w ih =>
    obtain ⟨h1, h2, h3⟩ := hw c (List.mem_cons_self c w)
    exact Tidy.append (a := [c])
      ⟨List.chain'_singleton c, by simpa using h2, by simpa using ⟨h1, h3⟩⟩
      (ih fun c hc => hw c (List.mem_cons_of_mem _ hc))

theorem tidy_spanOpen {cls : List Char} (hc : ClassName cls) : Tidy (spanOpen cls) :=
  ((by decide : Tidy "<span class=\"".data).append
    (tidy_of_textChars fun _ h => ⟨fun e => hc.2.1 (e ▸ h), fun e => hc.2.2.1 (e ▸ h),
      fun e => hc.2.2.2 (e ▸ h)⟩)).append (by decide)

/-- Every text of the language is tidy: one case per way of building it. -/
theorem Seq.tidy {w : List Char} (hw : Seq w) : Tidy w := by
  induction hw with
  | nil => exact ⟨List.chain'_nil, by simp, by simp⟩
  | text hc _ ih => exact Tidy.append (tidy_of_textChars (w := [_]) (by simpa using hc)) ih
  | entity he _ ih => exact Tidy.append (by rcases he with rfl | rfl | rfl <;> decide) ih
  | span hc _ _ ihb ihr => exact (((tidy_spanOpen hc).append ihb).append (by decide)).append ihr

end HurlHtml.Markup
