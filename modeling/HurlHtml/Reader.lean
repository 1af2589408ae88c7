import HurlHtml.SourceText
import HurlHtml.Markup

/-!
# Readers of the output

The properties of the output are read off it from left to right: stripping the markup gives
back characters, the recogniser of `Markup` follows the nesting of the spans, and dropping the
characters the markup is written with keeps the others. A `Reader` is any such reading, given
by what it does with each kind of text the formatter pushes: a character it keeps is read as
itself, the escape of a character is read as that character, and a span tag whose class is a
word of lowercase letters, digits and `-` moves the nesting depth. Every reader keeps the
characters of character data; stripping keeps `>` as well, and the filter keeps every
character. The lemmas here read the primitive texts of the formatter with any reader;
`Reading` reads the text of every method.

`strip` is the left-to-right scan of the round-trip property: it deletes every tag, from a
`<` through the next `>`, and decodes the entities `&amp;`, `&lt;`, `&gt;`; its flag says
whether the scan is inside a tag.
-/

namespace HurlHtml.Strip

def strip : Bool → List Char → List Char
  | _, [] => []
  | true, c :: cs => if c = '>' then strip false cs else strip true cs
  | false, '<' :: cs => strip true cs
  | false, '&' :: 'a' :: 'm' :: 'p' :: ';' :: cs => '&' :: strip false cs
  | false, '&' :: 'l' :: 't' :: ';' :: cs => '<' :: strip false cs
  | false, '&' :: 'g' :: 't' :: ';' :: cs => '>' :: strip false cs
  | false, c :: cs => c :: strip false cs

/-- The text left when the markup of `s` is stripped. -/
def stripTags (s : String) : String := ⟨strip false s.data⟩

/- The fall-through case of `strip`, read off its compiled match: the match tests the head
against `<` and then `&`, and no equation lemma of the overlapping patterns is needed. -/
set_option smartUnfolding false in
theorem strip_cons {c : Char} (h1 : c ≠ '<') (h2 : c ≠ '&') (cs : List Char) :
    strip false (c :: cs) = c :: strip false cs := by
  refine (congrFun (dif_neg h1) _).trans ?_
  exact congrFun (dif_neg h2) _

/-- Inside a tag everything up to the closing `>` is dropped. -/
theorem strip_inTag {w : List Char} (h : '>' ∉ w) (rest : List Char) :
    strip true (w ++ '>' :: rest) = strip false rest := by
  induction w with
  | nil => rfl
  | cons c w ih =>
    simp only [List.mem_cons, not_or] at h
    exact (if_neg (Ne.symm h.1)).trans (ih h.2)

theorem strip_tag {w : List Char} (h : '>' ∉ w) (rest : List Char) :
    strip false ('<' :: (w ++ '>' :: rest)) = strip false rest := by
  rw [← strip_inTag h rest]; rfl

theorem strip_escapeChar (c : Char) (rest : List Char) :
    strip false (escapeChar c ++ rest) = c :: strip false rest := by
  rcases em (c = '&') with rfl | h1; · rfl
  rcases em (c = '<') with rfl | h2; · rfl
  rcases em (c = '>') with rfl | h3; · rfl
  simp [escapeChar, h1, h2, h3, strip_cons h2 h1]

/-- A span tag whose class holds no `>` is dropped. -/
theorem strip_spanOpen {cls : List Char} (h : '>' ∉ cls) (rest : List Char) :
    strip false (Markup.spanOpen cls ++ rest) = strip false rest := by
  have h' : '>' ∉ "span class=\"".data ++ cls ++ ['"'] := by simpa using h
  simpa [Markup.spanOpen] using strip_tag h' rest

end HurlHtml.Strip

namespace HurlHtml

open HtmlFormatter Markup

/-- The classes the formatter writes: lowercase letters, digits and `-`. -/
def ClassWord (cls : List Char) : Prop := ∀ c ∈ cls, c.isLower ∨ c.isDigit ∨ c = '-'

instance : DecidablePred ClassWord := fun cls =>
  inferInstanceAs (Decidable (∀ c ∈ cls, c.isLower ∨ c.isDigit ∨ c = '-'))

theorem ClassWord.not_mem {cls : List Char} (h : ClassWord cls) {c : Char}
    (hc : ¬(c.isLower ∨ c.isDigit ∨ c = '-')) : c ∉ cls := fun hm => hc (h c hm)

theorem ClassWord.className {cls : List Char} (h : ClassWord cls) : ClassName cls :=
  ⟨h.not_mem (by decide), h.not_mem (by decide), h.not_mem (by decide), h.not_mem (by decide)⟩

namespace Unmarked

/-- A character the formatter's tags and entities may be written with. -/
def markupChar (c : Char) : Bool := c.isLower || c.isDigit || "<>&;/=\" -".data.contains c

/-- The characters of `w` that no tag or entity is written with, in order. -/
def unmarked (w : List Char) : List Char := w.filter fun c => !markupChar c

example : unmarked (escapeXml "if a<B & C>\n").data = ['B', 'C', '\n'] := by decide

@[simp] theorem unmarked_nil : unmarked [] = [] := rfl

@[simp] theorem unmarked_cons (c : Char) (w : List Char) :
    unmarked (c :: w) = if markupChar c then unmarked w else c :: unmarked w := by
  cases h : markupChar c <;> simp [unmarked, List.filter_cons, h]

theorem unmarked_append (a b : List Char) : unmarked (a ++ b) = unmarked a ++ unmarked b :=
  List.filter_append _ _

/-- Escaping rewrites a markup character into markup. -/
theorem unmarked_escapeChar (c : Char) : unmarked (escapeChar c) = unmarked [c] := by
  unfold escapeChar
  split_ifs <;> first | rfl | (subst_vars; decide)

/-- Every class the formatter writes is markup. -/
theorem unmarked_eq_nil_of_classWord {cls : List Char} (h : ClassWord cls) : unmarked cls = [] :=
  List.filter_eq_nil_iff.mpr fun c hc => by
    rcases h c hc with h | h | rfl <;> simp [markupChar, h]

end Unmarked

/-- A left-to-right reading of markup at a nesting depth; `emit w x` is the reading `x` after
the characters `w`, and `Keeps` the characters read as themselves. -/
structure Reader (α : Type) where
  run : Nat → List Char → α
  emit : List Char → α → α
  emit_nil : ∀ x, emit [] x = x
  emit_append : ∀ a b x, emit (a ++ b) x = emit a (emit b x)
  Keeps : Char → Prop
  keeps_of_textChar : ∀ c, TextChar c → Keeps c
  run_keep : ∀ d c rest, Keeps c → run d (c :: rest) = emit [c] (run d rest)
  run_escapeChar : ∀ d c rest, run d (escapeChar c ++ rest) = emit [c] (run d rest)
  run_spanOpen : ∀ d cls rest, ClassWord cls → run d (spanOpen cls ++ rest) = run (d + 1) rest
  run_spanClose : ∀ d rest, run (d + 1) (spanClose ++ rest) = run d rest

namespace Reader

/-- Stripping the markup keeps every character but `<` and `&`, and has no use for the depth:
outside a tag, `>` is read as itself. -/
def strip : Reader (List Char) where
  run _ w := Strip.strip false w
  emit := (· ++ ·)
  emit_nil _ := rfl
  emit_append := List.append_assoc
  Keeps c := c ≠ '<' ∧ c ≠ '&'
  keeps_of_textChar _ hc := ⟨hc.1, hc.2.2⟩
  run_keep _ _ rest hc := Strip.strip_cons hc.1 hc.2 rest
  run_escapeChar _ c rest := Strip.strip_escapeChar c rest
  run_spanOpen _ _ rest hc := Strip.strip_spanOpen (hc.className.2.2.1) rest
  run_spanClose _ _ := rfl

/-- The recogniser follows the depth, keeps character data and has no use for the
characters. -/
def scan : Reader (Option Scan) where
  run d w := (Scan.text d).exec w
  emit _ x := x
  emit_nil _ := rfl
  emit_append _ _ _ := rfl
  Keeps := TextChar
  keeps_of_textChar _ hc := hc
  run_keep d _ rest hc := Scan.exec_text_cons d rest hc
  run_escapeChar d c rest := Scan.exec_escapeChar d rest c
  run_spanOpen d _ rest hc := Scan.exec_spanOpen d rest hc.className
  run_spanClose d rest := Scan.exec_spanClose d rest

/-- Dropping the markup characters keeps every character and has no use for the depth. -/
def unmarked : Reader (List Char) where
  run _ := Unmarked.unmarked
  emit w x := Unmarked.unmarked w ++ x
  emit_nil _ := rfl
  emit_append a b x := by simp only [Unmarked.unmarked_append, List.append_assoc]
  Keeps _ := True
  keeps_of_textChar _ _ := trivial
  run_keep _ c rest _ := Unmarked.unmarked_append [c] rest
  run_escapeChar _ c rest := by
    simp only [Unmarked.unmarked_append, Unmarked.unmarked_escapeChar]
  run_spanOpen _ _ rest h := by
    simp only [spanOpen, Unmarked.unmarked_append, Unmarked.unmarked_eq_nil_of_classWord h]
    rfl
  run_spanClose _ rest := Unmarked.unmarked_append spanClose rest

variable {α : Type} (R : Reader α) (d : Nat) (rest : List Char)

/-- Every character of `s` is kept. -/
def KeepsStr (s : String) : Prop := ∀ c ∈ s.data, R.Keeps c

/-- Every character of every string of `L` is kept. -/
def KeepsAll (L : List String) : Prop := ∀ s ∈ L, R.KeepsStr s

@[simp] theorem keepsAll_nil : R.KeepsAll [] ↔ True := by simp [KeepsAll]

@[simp] theorem keepsAll_cons (s : String) (L : List String) :
    R.KeepsAll (s :: L) ↔ R.KeepsStr s ∧ R.KeepsAll L := List.forall_mem_cons

@[simp] theorem keepsAll_append (L M : List String) :
    R.KeepsAll (L ++ M) ↔ R.KeepsAll L ∧ R.KeepsAll M := List.forall_mem_append

theorem keepsAll_flatMap {β : Type} {g : β → List String} {xs : List β}
    (h : R.KeepsAll (xs.flatMap g)) : ∀ x ∈ xs, R.KeepsAll (g x) := fun x hx s hs =>
  h s (List.mem_flatMap.mpr ⟨x, hx, hs⟩)

@[simp] theorem emit_nil_eq (x : α) : R.emit [] x = x := R.emit_nil x

@[simp] theorem emit_emit (a b : List Char) (x : α) : R.emit a (R.emit b x) = R.emit (a ++ b) x :=
  (R.emit_append a b x).symm

theorem keeps_of_plain {s : String} (h : Plain s) : R.KeepsStr s := fun c hc =>
  R.keeps_of_textChar c ⟨fun e => h.1 (e ▸ hc), fun e => h.2.1 (e ▸ hc), fun e => h.2.2 (e ▸ hc)⟩

theorem keepsAll_of_plain {L : List String} (h : ∀ s ∈ L, Plain s) : R.KeepsAll L :=
  fun s hs => R.keeps_of_plain (h s hs)

theorem run_textChar {c : Char} (hc : TextChar c) :
    R.run d (c :: rest) = R.emit [c] (R.run d rest) :=
  R.run_keep d c rest (R.keeps_of_textChar c hc)

theorem run_keeps {w : List Char} (hw : ∀ c ∈ w, R.Keeps c) :
    R.run d (w ++ rest) = R.emit w (R.run d rest) := by
  induction w with
  | nil => exact (R.emit_nil _).symm
  | cons c w ih =>
    rw [List.cons_append, R.run_keep d c _ (hw c (List.mem_cons_self c w)),
      ih fun c hc => hw c (List.mem_cons_of_mem _ hc), emit_emit, List.singleton_append]

theorem run_str {s : String} (h : R.KeepsStr s) :
    R.run d (s.data ++ rest) = R.emit s.data (R.run d rest) :=
  R.run_keeps d rest h

theorem run_escapeXml (s : String) :
    R.run d ((escapeXml s).data ++ rest) = R.emit s.data (R.run d rest) := by
  rw [escapeXml_data]
  induction s.data generalizing rest with
  | nil => exact (R.emit_nil _).symm
  | cons c cs ih =>
    rw [List.flatMap_cons, List.append_assoc, R.run_escapeChar, ih, emit_emit,
      List.singleton_append]

theorem run_encodeHtml {s : String} (h : '&' ∉ s.data) :
    R.run d ((encodeHtml s).data ++ rest) = R.emit s.data (R.run d rest) := by
  rw [encodeHtml_eq_escapeXml h, run_escapeXml]

theorem run_fmtSpanOpen {cls : String} (h : ClassWord cls.data) :
    R.run d ((fmtSpanOpen cls).data ++ rest) = R.run (d + 1) rest := by
  simpa [fmtSpanOpen, spanOpen] using R.run_spanOpen d cls.data rest h

theorem run_fmtSpanClose : R.run (d + 1) (fmtSpanClose.data ++ rest) = R.run d rest :=
  R.run_spanClose d rest

theorem run_fmtSpan {cls value : String} (hc : ClassWord cls.data) (hv : R.KeepsStr value) :
    R.run d ((fmtSpan cls value).data ++ rest) = R.emit value.data (R.run d rest) := by
  simp [fmtSpan_eq, R.run_fmtSpanOpen _ _ hc, R.run_str _ _ hv, R.run_fmtSpanClose]

theorem run_fmtSpan_escapeXml {cls : String} (hc : ClassWord cls.data) (value : String) :
    R.run d ((fmtSpan cls (escapeXml value)).data ++ rest) = R.emit value.data (R.run d rest) := by
  simp [fmtSpan_eq, R.run_fmtSpanOpen _ _ hc, R.run_escapeXml, R.run_fmtSpanClose]

/-- A joined list of texts is read element by element. -/
theorem run_join {β : Type} {g t : β → String} {xs : List β}
    (h : ∀ x ∈ xs, ∀ rest, R.run d ((g x).data ++ rest) = R.emit (t x).data (R.run d rest)) :
    R.run d ((String.join (xs.map g)).data ++ rest) =
      R.emit (String.join (xs.map t)).data (R.run d rest) := by
  induction xs generalizing rest with
  | nil => exact (R.emit_nil _).symm
  | cons x xs ih =>
    simp only [List.map_cons, join_cons, String.data_append, List.append_assoc]
    rw [h x (List.mem_cons_self x xs), ih _ fun y hy => h y (List.mem_cons_of_mem x hy), emit_emit]

end Reader

end HurlHtml
