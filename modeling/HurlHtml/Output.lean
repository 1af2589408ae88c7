import HurlHtml.Reading
import Mathlib.Data.List.Infix

/-!
# What the output of `format` is

Four readings of the output, each a consequence of `Reading` or of `Unescaped`.

The recogniser of `Markup` reads the output of every tree whose strings written without escape
hold no `<`, `>` or `&`, so that output is in the language of `Markup`. A regex literal holding
`<` shows that it need not be otherwise: `fmt_regex` writes it as it stands. Conversely, since
the strings written without escape stand verbatim in the output, a well-formed output holds them
only with the neighbours the language permits.

Stripping the markup gives back the verbatim source of every tree whose strings written without
escape hold no `<` and no `&`, and whose filenames are written in the source as `fmt_filename`
writes them. `fmt_filename` writes the decoded value of a filename with each space escaped, where
`fmt_template` and `fmt_cookie_path` write the source: a filename whose source escapes another
character does not come back.

Every `&` of the language begins an entity outside every tag, so an escape that occurs in the
output of a plain tree stands for text that occurs in its source.

Dropping the characters the markup is written with keeps every other character of the source,
in order and line by line, whatever the strings written without escape hold.
-/

namespace HurlHtml

open HtmlFormatter

/-- `POST http://localhost/upload` with the body `file,my\ file.bin;`, `HTTP 201` and one assert
`jsonpath "$.id" matches` the regex literal `pattern`. The filename's source escapes its space,
as `fmt_filename` writes it. -/
def uploadMatches (pattern : String) : HurlFile where
  entries := [⟨⟨[], ⟨""⟩, ⟨"POST"⟩, ⟨" "⟩,
      ⟨none, [.string "http://localhost/upload" "http://localhost/upload"]⟩, ⟨⟨""⟩, none, ⟨"\n"⟩⟩,
      [], [], some ⟨[], ⟨""⟩, .file ⟨⟨""⟩, ⟨none, [.string "my file.bin" "my\\ file.bin"]⟩, ⟨""⟩⟩,
        ⟨⟨""⟩, none, ⟨"\n"⟩⟩⟩⟩,
    some ⟨[], ⟨""⟩, ⟨.versionAny⟩, ⟨" "⟩, ⟨.specific 201⟩, ⟨⟨""⟩, none, ⟨"\n"⟩⟩, [],
      [⟨[], ⟨""⟩, ⟨⟨""⟩, none, ⟨"\n"⟩⟩, .asserts [⟨[], ⟨""⟩,
        ⟨.jsonpath ⟨" "⟩ ⟨some '"', [.string "$.id" "$.id"]⟩⟩, [], ⟨" "⟩,
        ⟨false, ⟨""⟩, ⟨.«match» ⟨" "⟩ (.regex ⟨pattern⟩)⟩⟩, ⟨⟨""⟩, none, ⟨"\n"⟩⟩⟩]⟩],
      none⟩⟩]
  lineTerminators := []

/-- The only filename of the file is written in its source as `fmt_filename` writes it. -/
theorem uploadMatches_filenames (pattern : String) :
    ∀ t ∈ (uploadMatches pattern).filenames, filenameText t = t.toSource :=
  show ∀ t ∈ [(⟨none, [.string "my file.bin" "my\\ file.bin"]⟩ : Template)], _ from by decide

end HurlHtml

namespace HurlHtml.WellFormed

open HtmlFormatter Markup

/-- The output of every tree whose unescaped strings hold no markup character is one
`<pre><code>` block of character data, entities and properly nested spans. -/
theorem isDoc_format (css : String) (f : HurlFile) (h : f.RawPlain) : IsDoc (format css f false) := by
  have hbody := Reader.scan.run_fmtHurlFileBody 0 [] (Reader.scan.keepsAll_of_rawPlain h)
  rw [List.append_nil] at hbody
  rwa [format_eq, isDoc_iff_exec]

theorem isDoc_format_assertMatches_digits :
    (assertMatches "/\\d+/").RawPlain ∧ IsDoc (format "" (assertMatches "/\\d+/") false) :=
  have h : (assertMatches "/\\d+/").RawPlain := by
    simp [HurlFile.RawPlain, Entry.RawPlain, Request.RawPlain, Response.RawPlain, Section.RawPlain,
      SectionValue.RawPlain, Assert.RawPlain, QueryValue.RawPlain, Predicate.RawPlain,
      PredicateFuncValue.RawPlain, PredicateValue.RawPlain, ltsPlain, LineTerminator.RawPlain,
      filtersPlain, assertMatches]
    decide
  ⟨h, isDoc_format "" _ h⟩

set_option maxRecDepth 2000 in
/-- A named group in a regex literal: `fmt_regex` writes its `<` as it stands, and the scan
stops at `<i`, which opens no tag the formatter writes. -/
theorem format_assertMatches_namedGroup_not_isDoc :
    ¬ IsDoc (format "" (assertMatches "/(?<id>\\d+)/") false) := by
  rw [format_eq]
  decide

/-- A well-formed output holds every string written without escape only with neighbours the
language permits: each `<` in one is followed by `s` or `/`, each `&` by `a`, `l` or `g`, and
each `>` follows `"` or `n`. A regex literal with a named group `(?<name>`, a lookbehind
`(?<=`, or a placeholder holding `&&` therefore puts the output of every tree that holds it
outside the language. -/
theorem rawTexts_adjacent_of_isDoc {css : String} {f : HurlFile} (h : IsDoc (format css f false)) :
    ∀ s ∈ f.rawTexts, s.data.Chain' Adjacent := by
  rw [format_eq, isDoc_iff] at h
  have hw := Unescaped.within_fmtHurlFileBody f (Unescaped.Within.nil [])
  simp only [List.append_nil] at hw
  exact fun s hs => h.tidy.chain.infix (hw s hs)

set_option maxRecDepth 2000 in
/-- The regex literal `/a&amp;b/` holds a `&`, so the tree is not `RawPlain`, and its output is
well-formed all the same. -/
theorem rawTexts_adjacent_of_isDoc_entityRegex :
    IsDoc (format "" (assertMatches "/a&amp;b/") false) ∧
      ∀ s ∈ (assertMatches "/a&amp;b/").rawTexts, s.data.Chain' Adjacent :=
  have h : IsDoc (format "" (assertMatches "/a&amp;b/") false) := by
    rw [format_eq]
    decide
  ⟨h, rawTexts_adjacent_of_isDoc h⟩

end HurlHtml.WellFormed

namespace HurlHtml.RoundTrip

open HtmlFormatter Markup Strip

/-- `POST http://localhost/upload` with the body `file,a\;b.bin;`: the filename's source
escapes its `;`, its decoded value does not. -/
def fileBodyEscape : HurlFile where
  entries := [⟨⟨[], ⟨""⟩, ⟨"POST"⟩, ⟨" "⟩,
    ⟨none, [.string "http://localhost/upload" "http://localhost/upload"]⟩, ⟨⟨""⟩, none, ⟨"\n"⟩⟩,
    [], [], some ⟨[], ⟨""⟩, .file ⟨⟨""⟩, ⟨none, [.string "a;b.bin" "a\\;b.bin"]⟩, ⟨""⟩⟩,
      ⟨⟨""⟩, none, ⟨"\n"⟩⟩⟩⟩, none⟩]
  lineTerminators := []

/-- The filename is written from its decoded value, so its escape is lost. -/
theorem stripTags_format_ne_source_fileBodyEscape :
    stripTags (format "" fileBodyEscape false) ≠ fileBodyEscape.sourceText Template.toSource := by
  decide

/-- Stripping the markup of the output gives back the verbatim source of every tree whose
strings written without escape hold no `<` and no `&`, and whose filenames are written in the
source as `fmt_filename` writes them. A `>` does no harm: outside a tag the scan reads it as
itself, and no tag the formatter writes holds one before its end. -/
theorem stripTags_format_eq_source (css : String) {f : HurlFile}
    (h : ∀ s ∈ f.rawTexts, '<' ∉ s.data ∧ '&' ∉ s.data)
    (hf : ∀ t ∈ f.filenames, filenameText t = t.toSource) :
    stripTags (format css f false) = f.sourceText Template.toSource := by
  have hkeep : Reader.strip.KeepsAll f.rawTexts := fun s hs c hc =>
    ⟨fun e => (h s hs).1 (e ▸ hc), fun e => (h s hs).2 (e ▸ hc)⟩
  have hopen : ∀ w, strip false (preOpen ++ w) = strip false w := fun _ => rfl
  rw [← HurlFile.sourceText_congr hf]
  refine String.ext ?_
  simp only [format_eq, stripTags, List.append_assoc, hopen]
  exact (Reader.strip.run_fmtHurlFileBody 0 preClose hkeep).trans (List.append_nil _)

/-- The regex literal `/a>b/` holds a `>`, so the tree is not `RawPlain`, and its output strips
back to its source all the same. -/
theorem stripTags_format_eq_source_gtRegex :
    (∀ s ∈ (uploadMatches "/a>b/").rawTexts, '<' ∉ s.data ∧ '&' ∉ s.data) ∧
      stripTags (format "" (uploadMatches "/a>b/") false) =
        (uploadMatches "/a>b/").sourceText Template.toSource :=
  have h : ∀ s ∈ (uploadMatches "/a>b/").rawTexts, '<' ∉ s.data ∧ '&' ∉ s.data := by decide
  ⟨h, stripTags_format_eq_source "" h (uploadMatches_filenames _)⟩

end HurlHtml.RoundTrip

namespace HurlHtml.Entities

/-- Where a suffix of `a ++ b` starts: within `b`, or at a nonempty suffix of `a`. -/
theorem suffix_append_cases {t a b : List Char} (h : t <:+ a ++ b) :
    t <:+ b ∨ ∃ a', a' ≠ [] ∧ a' <:+ a ∧ t = a' ++ b := by
  obtain ⟨p, hp⟩ := h
  rcases List.append_eq_append_iff.mp hp with ⟨a', rfl, rfl⟩ | ⟨c', rfl, rfl⟩
  · rcases eq_or_ne a' [] with rfl | ha
    · exact .inl (List.suffix_refl _)
    · exact .inr ⟨a', ha, List.suffix_append _ _, rfl⟩
  · exact .inl (List.suffix_append _ _)

/-- The first character of a text starting within `a` is a character of `a`. -/
theorem head_mem_of_suffix {a a' b : List Char} {c : Char} (ha : a' ≠ []) (hs : a' <:+ a)
    (h : (a' ++ b).head? = some c) : c ∈ a := by
  rw [List.head?_append_of_ne_nil _ ha] at h
  exact hs.subset (List.mem_of_mem_head? h)

end HurlHtml.Entities

namespace HurlHtml.Markup

open Strip Entities

/-- Stripping reads a text of the language on its own: what follows is read separately. -/
theorem Seq.strip_append {w : List Char} (hw : Seq w) (x : List Char) :
    strip false (w ++ x) = strip false w ++ strip false x := by
  induction hw generalizing x with
  | nil => rfl
  | text hc _ ih =>
    rw [List.cons_append, strip_cons hc.1 hc.2.2, strip_cons hc.1 hc.2.2, ih, List.cons_append]
  | entity he _ ih =>
    rw [List.append_assoc]
    rcases he with rfl | rfl | rfl <;> exact congrArg (List.cons _) (ih x)
  | @span cls body rest hc _ _ ihb ihr =>
    have hclose : ∀ y, strip false (spanClose ++ y) = strip false y := fun _ => rfl
    simp only [List.append_assoc]
    rw [strip_spanOpen hc.2.2.1, strip_spanOpen hc.2.2.1, ihb, ihb (spanClose ++ rest), hclose,
      hclose, ihr, List.append_assoc]

/-- Stripping a text of the language from a `&` on reads a suffix of what stripping the
whole text reads: a `&` of the language begins an entity, outside every tag. -/
theorem Seq.strip_suffix {w : List Char} (hw : Seq w) {t : List Char} (ht : t <:+ w)
    (h : t.head? = some '&') (x : List Char) : strip false (t ++ x) <:+ strip false (w ++ x) := by
  induction hw generalizing t x with
  | nil => obtain rfl := List.eq_nil_of_suffix_nil ht; cases h
  | text hc _ ih =>
    rcases suffix_append_cases (a := [_]) ht with hr | ⟨a', ha, hs, rfl⟩
    · rw [List.cons_append, strip_cons hc.1 hc.2.2]
      exact (ih hr h x).trans (List.suffix_cons _ _)
    · exact absurd (List.mem_singleton.mp (head_mem_of_suffix ha hs h)).symm hc.2.2
  | entity he _ ih =>
    rcases suffix_append_cases ht with hr | ⟨a', ha, hs, rfl⟩
    · rw [List.append_assoc]
      rcases he with rfl | rfl | rfl <;> exact (ih hr h x).trans (List.suffix_cons _ _)
    · rcases he with rfl | rfl | rfl <;> rcases List.suffix_cons_iff.mp hs with rfl | hs
      all_goals first
        | exact List.suffix_refl _
        | exact absurd (head_mem_of_suffix ha hs h) (by decide)
  | @span cls body rest hc hb _ ihb ihr =>
    have hclose : ∀ y, strip false (spanClose ++ y) = strip false y := fun _ => rfl
    have hamp : '&' ∉ spanOpen cls := by
      simp only [spanOpen, List.mem_append, not_or]
      exact ⟨⟨by decide, hc.2.2.2⟩, by decide⟩
    simp only [List.append_assoc] at ht ⊢
    rcases suffix_append_cases ht with ht | ⟨a', ha, hs, rfl⟩
    · rw [strip_spanOpen hc.2.2.1]
      rcases suffix_append_cases ht with ht | ⟨b', hb', hs, rfl⟩
      · rcases suffix_append_cases ht with hr | ⟨c', hc', hs, rfl⟩
        · rw [Seq.strip_append hb, hclose]
          exact (ihr hr h x).trans (List.suffix_append _ _)
        · exact absurd (head_mem_of_suffix hc' hs h) (by decide)
      · rw [List.head?_append_of_ne_nil _ hb'] at h
        simpa only [List.append_assoc] using ihb hs h (spanClose ++ rest ++ x)
    · exact absurd (head_mem_of_suffix ha hs h) hamp

end HurlHtml.Markup

namespace HurlHtml.Entities

open HtmlFormatter Markup Strip

/-- An escape that occurs in the output of a tree whose unescaped strings hold no markup
character stands for text of the tree's source: for every `u` whose escape begins with `&`,
`escape_xml(u)` occurs in the output only where `u` occurs in the source text. With
`u = "&amp;"`: the output holds `&amp;amp;` only if the source holds `&amp;`, so a text is
never escaped twice. -/
theorem escapeXml_infix_format {f : HurlFile} (h : f.RawPlain) (css : String) {u : String}
    (hu : (escapeXml u).data.head? = some '&')
    (hocc : (escapeXml u).data <:+: (format css f false).data) :
    u.data <:+: (f.sourceText filenameText).data := by
  have hseq :
      Seq ((String.join (f.entries.map fmtEntry)).data ++ (fmtLts f.lineTerminators).data) := by
    have := Reader.scan.run_fmtHurlFileBody 0 [] (Reader.scan.keepsAll_of_rawPlain h)
    rw [List.append_nil] at this
    exact seq_of_exec this
  have hstrip : strip false ((String.join (f.entries.map fmtEntry)).data ++
      (fmtLts f.lineTerminators).data ++ preClose) = (f.sourceText filenameText).data := by
    have := Reader.strip.run_fmtHurlFileBody 0 preClose (Reader.strip.keepsAll_of_rawPlain h)
    rw [← List.append_assoc] at this
    exact this.trans (List.append_nil _)
  obtain ⟨p, q, hpq⟩ := hocc
  have ht : (escapeXml u).data ++ q <:+ preOpen ++ ((String.join (f.entries.map fmtEntry)).data ++
      (fmtLts f.lineTerminators).data ++ preClose) := by
    rw [format_eq] at hpq
    exact ⟨p, by simpa only [List.append_assoc] using hpq⟩
  have hu' : ((escapeXml u).data ++ q).head? = some '&' := by
    rwa [List.head?_append_of_ne_nil _ (List.ne_nil_of_mem (List.mem_of_mem_head? hu))]
  rcases suffix_append_cases ht with ht | ⟨a', ha, hs, he⟩
  · rcases suffix_append_cases ht with ht | ⟨b', hb, hs, he⟩
    · exact absurd (ht.subset (List.mem_of_mem_head? hu')) (by decide)
    · have hsuf :=
        hseq.strip_suffix hs (by rwa [he, List.head?_append_of_ne_nil _ hb] at hu') preClose
      have hread : strip false ((escapeXml u).data ++ q) = u.data ++ strip false q :=
        Reader.strip.run_escapeXml 0 q u
      rw [hstrip, ← he, hread] at hsuf
      exact (List.prefix_append _ _).isInfix.trans hsuf.isInfix
  · exact absurd (head_mem_of_suffix ha hs (he ▸ hu')) (by decide)

/-- `GET http://localhost/?q=&amp;`: a URL holding the text of an entity. -/
def urlEntity : HurlFile where
  entries := [⟨⟨[], ⟨""⟩, ⟨"GET"⟩, ⟨" "⟩,
    ⟨none, [.string "http://localhost/?q=&amp;" "http://localhost/?q=&amp;"]⟩, ⟨⟨""⟩, none, ⟨"\n"⟩⟩,
    [], [], none⟩, none⟩]
  lineTerminators := []

set_option maxRecDepth 2000 in
theorem escapeXml_infix_format_urlEntity :
    urlEntity.RawPlain ∧ (escapeXml "&amp;").data.head? = some '&' ∧
      (escapeXml "&amp;").data <:+: (format "" urlEntity false).data ∧
      "&amp;".data <:+: (urlEntity.sourceText filenameText).data :=
  have h : urlEntity.RawPlain := by decide
  have hu : (escapeXml "&amp;").data.head? = some '&' := by decide
  have hocc : (escapeXml "&amp;").data <:+: (format "" urlEntity false).data := by decide
  ⟨h, hu, hocc, escapeXml_infix_format h "" hu hocc⟩

end HurlHtml.Entities

namespace HurlHtml.Unmarked

open HtmlFormatter Markup

/-- Outside the characters of its markup, the output is the text of the tree's nodes, each
filename as `fmt_filename` writes it, for every tree. -/
theorem unmarked_format_filenameText (css : String) (f : HurlFile) :
    unmarked (format css f false).data = unmarked (f.sourceText filenameText).data := by
  have h : unmarked ((String.join (f.entries.map fmtEntry)).data ++
      ((fmtLts f.lineTerminators).data ++ preClose)) =
        unmarked (f.sourceText filenameText).data ++ unmarked preClose :=
    Reader.unmarked.run_fmtHurlFileBody 0 preClose fun _ _ _ _ => trivial
  have hopen : unmarked preOpen = [] := by decide
  have hclose : unmarked preClose = [] := by decide
  rw [format_eq, List.append_assoc, unmarked_append, hopen, List.nil_append, List.append_assoc, h,
    hclose, List.append_nil]

/-- Outside the characters of its markup, the output of every tree is its verbatim source as
soon as its filenames are written as `fmt_filename` writes them: no character is lost, added
or moved, whatever the strings written without escape hold. -/
theorem unmarked_format (css : String) {f : HurlFile}
    (hf : ∀ t ∈ f.filenames, filenameText t = t.toSource) :
    unmarked (format css f false).data = unmarked (f.sourceText Template.toSource).data := by
  rw [unmarked_format_filenameText, HurlFile.sourceText_congr hf]

/-- The regex literal's named group puts the output outside the language of `Markup`, and
outside the markup the output is the source all the same. -/
theorem unmarked_format_namedGroup :
    (∀ t ∈ (uploadMatches "/(?<id>\\d+)/").filenames, filenameText t = t.toSource) ∧
      unmarked (format "" (uploadMatches "/(?<id>\\d+)/") false).data =
        unmarked ((uploadMatches "/(?<id>\\d+)/").sourceText Template.toSource).data :=
  ⟨uploadMatches_filenames _, unmarked_format "" (uploadMatches_filenames _)⟩

/-- Dropping the markup keeps the line breaks, so it drops characters within each line. -/
theorem splitOn_unmarked (w : List Char) :
    (unmarked w).splitOn '\n' = (w.splitOn '\n').map unmarked := by
  induction w with
  | nil => rfl
  | cons c w ih =>
    obtain ⟨l, ls, hl⟩ := List.exists_cons_of_ne_nil (List.splitOnP_ne_nil (· == '\n') w)
    simp only [List.splitOn] at ih ⊢
    rw [hl] at ih
    by_cases hc : c = '\n'
    · subst hc
      simp [ih, hl, show markupChar '\n' = false by decide]
    · by_cases hm : markupChar c <;> simp [hm, hc, ih, hl]

/-- Line by line, outside the characters of its markup, the output is the verbatim source when
the filenames are written as `fmt_filename` writes them: the `i`-th line of the output shows the
text of the `i`-th line of the source, even where a span runs over several lines. -/
theorem lines_unmarked_format (css : String) {f : HurlFile}
    (hf : ∀ t ∈ f.filenames, filenameText t = t.toSource) :
    ((format css f false).data.splitOn '\n').map unmarked =
      ((f.sourceText Template.toSource).data.splitOn '\n').map unmarked := by
  rw [← splitOn_unmarked, ← splitOn_unmarked, unmarked_format_filenameText,
    HurlFile.sourceText_congr hf]

theorem lines_unmarked_format_namedGroup :
    (∀ t ∈ (uploadMatches "/(?<id>\\d+)/").filenames, filenameText t = t.toSource) ∧
      ((format "" (uploadMatches "/(?<id>\\d+)/") false).data.splitOn '\n').map unmarked =
        (((uploadMatches "/(?<id>\\d+)/").sourceText Template.toSource).data.splitOn '\n').map
          unmarked :=
  ⟨uploadMatches_filenames _, lines_unmarked_format "" (uploadMatches_filenames _)⟩

/-- Every character outside the markup occurs in the output as often as in the text of the
tree's nodes. -/
theorem count_format {c : Char} (hc : markupChar c = false) (css : String) (f : HurlFile) :
    (format css f false).data.count c = (f.sourceText filenameText).data.count c := by
  have h := congrArg (List.count c) (unmarked_format_filenameText css f)
  simpa only [unmarked, List.count_filter, hc, Bool.not_false] using h

/-- The output holds exactly as many line breaks as the verbatim source when the filenames are
written as `fmt_filename` writes them: the formatter never joins or splits a line, whatever the
strings it writes without escape hold. -/
theorem count_newline_format (css : String) {f : HurlFile}
    (hf : ∀ t ∈ f.filenames, filenameText t = t.toSource) :
    (format css f false).data.count '\n' = (f.sourceText Template.toSource).data.count '\n' := by
  rw [count_format (by decide), HurlFile.sourceText_congr hf]

theorem count_newline_format_namedGroup :
    (∀ t ∈ (uploadMatches "/(?<id>\\d+)/").filenames, filenameText t = t.toSource) ∧
      (format "" (uploadMatches "/(?<id>\\d+)/") false).data.count '\n' =
        ((uploadMatches "/(?<id>\\d+)/").sourceText Template.toSource).data.count '\n' :=
  ⟨uploadMatches_filenames _, count_newline_format "" (uploadMatches_filenames _)⟩

end HurlHtml.Unmarked
