import Mathlib.Data.List.Basic
import Mathlib.Data.String.Basic

/-!
# `escape_xml` and `encode_html`

Both are chains of `str::replace` with a `char` pattern. The chain of `escape_xml` is the
character-wise XML escape: it replaces `&` first, so the `&` of the entities introduced by
the later replaces is never escaped again. Its text has no `<` or `>`, every `&` in it
begins one of the three entities, and the entity decoder reads it back.

The escapes of the characters form a prefix code in which `&` only ever starts a code word.
So an occurrence of an escaped text that starts with `&` is aligned with the escapes of the
string it occurs in, and decoding gives back an occurrence of the text itself.
-/

namespace HurlHtml

/-- `str::replace` with a `char` pattern: every occurrence of `c` becomes `r`. -/
def replaceChar (s : String) (c : Char) (r : String) : String :=
  ⟨s.data.flatMap fun d => if d = c then r.data else [d]⟩

def escapeXml (s : String) : String :=
  replaceChar (replaceChar (replaceChar s '&' "&amp;") '<' "&lt;") '>' "&gt;"

def encodeHtml (s : String) : String :=
  replaceChar (replaceChar s '>' "&gt;") '<' "&lt;"

/-- The XML escape of one character. -/
def escapeChar (c : Char) : List Char :=
  if c = '&' then "&amp;".data else if c = '<' then "&lt;".data
  else if c = '>' then "&gt;".data else [c]

/-- The left-to-right entity decoder. -/
def decodeEntities : List Char → List Char
  | '&' :: 'a' :: 'm' :: 'p' :: ';' :: cs => '&' :: decodeEntities cs
  | '&' :: 'l' :: 't' :: ';' :: cs => '<' :: decodeEntities cs
  | '&' :: 'g' :: 't' :: ';' :: cs => '>' :: decodeEntities cs
  | c :: cs => c :: decodeEntities cs
  | [] => []

theorem replaceChar_data (s : String) (c : Char) (r : String) :
    (replaceChar s c r).data = s.data.flatMap fun d => if d = c then r.data else [d] := rfl

theorem escapeXml_data (s : String) : (escapeXml s).data = s.data.flatMap escapeChar := by
  simp only [escapeXml, replaceChar_data, List.flatMap_assoc]
  congr 1; funext c
  rcases em (c = '&') with rfl | h1; · decide
  rcases em (c = '<') with rfl | h2; · decide
  rcases em (c = '>') with rfl | h3; · decide
  simp [escapeChar, h1, h2, h3]

example : escapeXml "<drink>café</drink> & <?xml version=\"1.0\"?>" =
    "&lt;drink&gt;café&lt;/drink&gt; &amp; &lt;?xml version=\"1.0\"?&gt;" := by decide

/-- On text without `&` the two escapes agree: `encode_html` leaves only `&` alone. -/
theorem encodeHtml_eq_escapeXml {s : String} (h : '&' ∉ s.data) : encodeHtml s = escapeXml s := by
  refine String.ext ?_
  rw [escapeXml_data, encodeHtml, replaceChar_data, replaceChar_data, List.flatMap_assoc]
  refine List.flatMap_congr fun c hc => ?_
  rcases em (c = '>') with rfl | h1; · rfl
  rcases em (c = '<') with rfl | h2; · rfl
  simp [escapeChar, h1, h2, ne_of_mem_of_not_mem hc h]

/- The fall-through case of the decoder, read off its compiled match, which tests the head
against `&` first. -/
set_option smartUnfolding false in
theorem decodeEntities_cons {c : Char} (h : c ≠ '&') (rest : List Char) :
    decodeEntities (c :: rest) = c :: decodeEntities rest :=
  congrFun (dif_neg h) _

theorem decodeEntities_escapeChar (c : Char) (rest : List Char) :
    decodeEntities (escapeChar c ++ rest) = c :: decodeEntities rest := by
  rcases em (c = '&') with rfl | h1; · rfl
  rcases em (c = '<') with rfl | h2; · rfl
  rcases em (c = '>') with rfl | h3; · rfl
  simp only [escapeChar, h1, h2, h3, if_false, List.singleton_append]
  exact decodeEntities_cons h1 rest

theorem decodeEntities_flatMap (w rest : List Char) :
    decodeEntities (w.flatMap escapeChar ++ rest) = w ++ decodeEntities rest := by
  induction w with
  | nil => rfl
  | cons c w ih =>
    rw [List.flatMap_cons, List.append_assoc, decodeEntities_escapeChar, ih, List.cons_append]

theorem decodeEntities_flatMap_nil (w : List Char) : decodeEntities (w.flatMap escapeChar) = w :=
  (List.append_nil (w.flatMap escapeChar) ▸ decodeEntities_flatMap w []).trans (List.append_nil w)

theorem decodeEntities_escapeXml (s : String) : decodeEntities (escapeXml s).data = s.data := by
  rw [escapeXml_data, decodeEntities_flatMap_nil]

theorem escapeXml_injective : Function.Injective escapeXml := fun s t h =>
  String.ext (by rw [← decodeEntities_escapeXml s, ← decodeEntities_escapeXml t, h])

theorem eq_nil_of_escapeChar_eq {c : Char} {u r : List Char} (h : escapeChar c = u ++ '&' :: r) :
    u = [] := by
  cases u with
  | nil => rfl
  | cons x u =>
    have hmem : '&' ∈ (escapeChar c).tail := by simp [h]
    unfold escapeChar at hmem
    split_ifs at hmem <;> simp at hmem

/-- Every `&` of an escaped text begins the escape of a character. -/
theorem flatMap_escapeChar_split {s u r : List Char} (h : s.flatMap escapeChar = u ++ '&' :: r) :
    ∃ p t, s = p ++ t ∧ p.flatMap escapeChar = u ∧ t.flatMap escapeChar = '&' :: r := by
  induction s generalizing u with
  | nil => simp at h
  | cons c s ih =>
    rw [List.flatMap_cons] at h
    rcases List.append_eq_append_iff.mp h with ⟨a, rfl, ha⟩ | ⟨k, hc, hk⟩
    · obtain ⟨p, t, rfl, hp, ht⟩ := ih ha
      exact ⟨c :: p, t, rfl, by rw [List.flatMap_cons, hp], ht⟩
    · cases k with
      | nil =>
        rw [List.append_nil] at hc
        exact ⟨[c], s, rfl, by simp [hc], by simpa using hk.symm⟩
      | cons y k =>
        obtain ⟨rfl, -⟩ := List.cons.inj hk
        obtain rfl := eq_nil_of_escapeChar_eq hc
        exact ⟨[], c :: s, rfl, rfl, by simpa using h⟩

/-- An escaped text that starts with an entity occurs in `escape_xml s` exactly where the
text occurs in `s`: `&amp;amp;`, the escape of `&amp;`, shows in the output only where
`s` holds `&amp;`, so a literal escaped once is never mistaken for one escaped twice. -/
theorem escapeXml_infix_iff {w : String} (hw : (escapeXml w).data.head? = some '&') (s : String) :
    (escapeXml w).data <:+: (escapeXml s).data ↔ w.data <:+: s.data := by
  rw [escapeXml_data] at hw ⊢
  rw [escapeXml_data]
  constructor
  · rintro ⟨u, v, h⟩
    obtain ⟨r, hr⟩ := List.head?_eq_some_iff.mp hw
    rw [hr, List.append_assoc, List.cons_append] at h
    obtain ⟨p, t, hs, -, ht⟩ := flatMap_escapeChar_split h.symm
    have htw : t = w.data ++ decodeEntities v := by
      rw [← decodeEntities_flatMap_nil t, ht, ← List.cons_append, ← hr, decodeEntities_flatMap]
    exact ⟨p, decodeEntities v, by rw [hs, htw, List.append_assoc]⟩
  · rintro ⟨p, q, hs⟩
    exact ⟨p.flatMap escapeChar, q.flatMap escapeChar, by rw [← hs, List.flatMap_append,
      List.flatMap_append]⟩

theorem escapeXml_infix_iff_doubleAmp :
    (escapeXml "&amp;").data.head? = some '&' ∧
      ((escapeXml "&amp;").data <:+: (escapeXml "a&amp;b").data ↔
        "&amp;".data <:+: "a&amp;b".data) :=
  ⟨by decide, escapeXml_infix_iff (by decide) _⟩

theorem lt_not_mem_escapeXml (s : String) : '<' ∉ (escapeXml s).data := by
  simp only [escapeXml_data, List.mem_flatMap, not_exists, not_and]
  intro c _; unfold escapeChar; split_ifs <;> simp_all [eq_comm]

theorem gt_not_mem_escapeXml (s : String) : '>' ∉ (escapeXml s).data := by
  simp only [escapeXml_data, List.mem_flatMap, not_exists, not_and]
  intro c _; unfold escapeChar; split_ifs <;> simp_all [eq_comm]

/-- The three entities, without their leading `&`. -/
def EntityTail (l : List Char) : Prop :=
  "amp;".data <+: l ∨ "lt;".data <+: l ∨ "gt;".data <+: l

/-- Every `&` of `w` begins one of the entities `&amp;`, `&lt;`, `&gt;`. -/
def AmpsBeginEntities (w : List Char) : Prop :=
  ∀ l₁ l₂, w = l₁ ++ '&' :: l₂ → EntityTail l₂

theorem EntityTail.append {l : List Char} (h : EntityTail l) (r : List Char) :
    EntityTail (l ++ r) := by
  rcases h with h | h | h
  · exact .inl (h.trans (List.prefix_append l r))
  · exact .inr (.inl (h.trans (List.prefix_append l r)))
  · exact .inr (.inr (h.trans (List.prefix_append l r)))

theorem AmpsBeginEntities.of_not_mem {w : List Char} (h : '&' ∉ w) : AmpsBeginEntities w := by
  rintro l₁ l₂ rfl; simp at h

theorem AmpsBeginEntities.entity {e : List Char} (he : '&' ∉ e) (ht : EntityTail e) :
    AmpsBeginEntities ('&' :: e) := by
  rintro (_ | ⟨x, l₁⟩) l₂ h
  · cases h; exact ht
  · simp only [List.cons_append, List.cons.injEq] at h
    exact absurd (h.2 ▸ List.mem_append_right l₁ (List.mem_cons_self '&' l₂)) he

theorem AmpsBeginEntities.append {a b : List Char} (ha : AmpsBeginEntities a)
    (hb : AmpsBeginEntities b) : AmpsBeginEntities (a ++ b) := by
  intro l₁ l₂ h
  rcases List.append_eq_append_iff.mp h with ⟨a', rfl, hb'⟩ | ⟨c', rfl, hc⟩
  · exact hb a' l₂ hb'
  · cases c' with
    | nil => exact hb [] l₂ (by simpa using hc.symm)
    | cons x c'' =>
      simp only [List.cons_append, List.cons.injEq] at hc
      obtain ⟨rfl, rfl⟩ := hc
      exact (ha l₁ c'' rfl).append b

theorem ampsBeginEntities_escapeChar (c : Char) : AmpsBeginEntities (escapeChar c) := by
  unfold escapeChar
  split_ifs with h1 h2 h3
  · exact .entity (by decide) (.inl (List.prefix_refl _))
  · exact .entity (by decide) (.inr (.inl (List.prefix_refl _)))
  · exact .entity (by decide) (.inr (.inr (List.prefix_refl _)))
  · exact .of_not_mem (by simpa [eq_comm] using h1)

theorem ampsBeginEntities_escapeXml (s : String) : AmpsBeginEntities (escapeXml s).data := by
  rw [escapeXml_data]
  induction s.data with
  | nil => exact .of_not_mem (List.not_mem_nil _)
  | cons c cs ih => exact (ampsBeginEntities_escapeChar c).append ih

/-- `escape_xml` is the character-wise XML escape: its chain of replaces is the one-pass
map, its text holds no `<` or `>`, each `&` in it starts an entity, and the entity
decoder inverts it. -/
theorem escapeXml_characterwise :
    (∀ s, (escapeXml s).data = s.data.flatMap escapeChar) ∧
    (∀ s, '<' ∉ (escapeXml s).data ∧ '>' ∉ (escapeXml s).data) ∧
    (∀ s l₁ l₂, (escapeXml s).data = l₁ ++ '&' :: l₂ →
      "amp;".data <+: l₂ ∨ "lt;".data <+: l₂ ∨ "gt;".data <+: l₂) ∧
    (∀ s, decodeEntities (escapeXml s).data = s.data) ∧
    Function.Injective escapeXml :=
  ⟨escapeXml_data, fun s => ⟨lt_not_mem_escapeXml s, gt_not_mem_escapeXml s⟩,
    fun s => ampsBeginEntities_escapeXml s, decodeEntities_escapeXml, escapeXml_injective⟩

theorem escapeXml_characterwise_ampLt :
    (escapeXml "a&<").data = ['a'] ++ '&' :: "amp;&lt;".data ∧ "amp;".data <+: "amp;&lt;".data ∧
      escapeXml "a&<" ≠ escapeXml "a&>" :=
  have h : (escapeXml "a&<").data = ['a'] ++ '&' :: "amp;&lt;".data := by decide
  ⟨h, escapeXml_characterwise.2.2.1 _ _ _ h |>.resolve_right (by decide),
    fun e => absurd (escapeXml_characterwise.2.2.2.2 e) (by decide)⟩

end HurlHtml
