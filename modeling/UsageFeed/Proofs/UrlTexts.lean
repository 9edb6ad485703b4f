import Mathlib.Data.String.Defs
import UsageFeed.Proofs.AfterScheme

/-!
# `UsageFeed.Proofs.UrlTexts` — a slash put behind the text of a URL

Text that is put behind a URL is read as part of its path only where nothing comes between: a query
or a fragment takes it, and so do characters that are cut off at the end of a text but not within.

## Contents
- **What of a text counts.** `clean_eq`, trimming and dropping apart; `mem_clean`.
- **Schemes.** `readScheme?_append`, text behind a scheme that is already there.
- **Queries and fragments.** `beforeTails_append`, what is put behind them changes nothing before.
- **Whole texts.** `read_eq_ok`, the parts of a URL that is read; `read_endsOpen`, `read_closes` and
  `read_tail`, the three ways in which a slash at the end is read.
-/

namespace UsageFeed.Url

variable {scheme : Scheme}

/-! ## What of a text counts -/

/-- Whether a character is cut off at either end of a URL. -/
def isEdge (c : Char) : Bool := c.toNat ≤ 0x20

/-- The characters of a text that count, and those that are cut off at its ends. -/
def kept (s : String) : List Char := s.toList.filter fun c => !(c ∈ ['\t', '\n', '\r'])

theorem filter_dropWhile {p q : Char → Bool} (h : ∀ c, ¬ q c → p c) (l : List Char) :
    (l.dropWhile p).filter q = (l.filter q).dropWhile p := by
  induction l with
  | nil => rfl
  | cons c l ih =>
    by_cases hp : p c
    · rw [List.dropWhile_cons_of_pos hp, ih]
      by_cases hq : q c
      · rw [List.filter_cons_of_pos hq, List.dropWhile_cons_of_pos hp]
      · rw [List.filter_cons_of_neg hq]
    · have hq : q c := by
        by_contra hq
        exact hp (h c hq)
      rw [List.dropWhile_cons_of_neg hp, List.filter_cons_of_pos hq,
        List.dropWhile_cons_of_neg hp]

theorem clean_eq (s : String) : clean s = Text.trimBy isEdge (kept s) := by
  have hedge : ∀ c, ¬ (!(c ∈ ['\t', '\n', '\r'] : Bool)) → isEdge c := by
    intro c hc
    simp only [List.mem_cons, List.not_mem_nil, or_false, Bool.not_eq_true', decide_eq_false_iff_not,
      not_not] at hc
    rcases hc with rfl | rfl | rfl <;> rfl
  change (Text.trimBy isEdge s.toList).filter _ = _
  unfold Text.trimBy kept
  rw [List.filter_reverse, filter_dropWhile hedge, List.filter_reverse, filter_dropWhile hedge]

theorem dropWhile_concat {p : Char → Bool} {c : Char} (hc : ¬ p c) (l : List Char) :
    (l ++ [c]).dropWhile p = l.dropWhile p ++ [c] := by
  rw [List.dropWhile_append]
  split
  · rename_i hempty
    rw [List.isEmpty_iff.mp hempty, List.dropWhile_cons_of_neg hc]
    rfl
  · rfl

/-- Nothing is cut off behind what is not cut off itself. -/
theorem trimBy_concat {p : Char → Bool} {c : Char} (hc : ¬ p c) (l : List Char) :
    Text.trimBy p (l ++ [c]) = l.dropWhile p ++ [c] := by
  rw [Text.trimBy, dropWhile_concat hc, List.reverse_concat, List.dropWhile_cons_of_neg hc,
    List.reverse_cons, List.reverse_reverse]

theorem trimBy_isPrefix (p : Char → Bool) (l : List Char) : Text.trimBy p l <+: l.dropWhile p := by
  rw [← List.reverse_suffix, Text.trimBy, List.reverse_reverse]
  exact List.dropWhile_suffix p

theorem mem_dropWhile_of_neg {p : Char → Bool} {c : Char} (hc : ¬ p c) {l : List Char}
    (h : c ∈ l) : c ∈ l.dropWhile p := by
  rw [← List.takeWhile_append_dropWhile (p := p) (l := l)] at h
  exact (List.mem_append.mp h).resolve_left fun hmem => hc (List.mem_takeWhile_imp hmem)

theorem mem_clean {c : Char} (hc : ¬ isEdge c) {s : String} : c ∈ clean s ↔ c ∈ s.toList := by
  have hkept : c ∈ kept s ↔ c ∈ s.toList := by
    unfold kept
    rw [List.mem_filter, and_iff_left]
    simp only [Bool.not_eq_true', decide_eq_false_iff_not]
    intro hmem
    simp only [List.mem_cons, List.not_mem_nil, or_false] at hmem
    rcases hmem with rfl | rfl | rfl <;> exact hc rfl
  rw [clean_eq, ← hkept]
  constructor
  · intro h
    exact (List.dropWhile_suffix isEdge).subset ((trimBy_isPrefix isEdge (kept s)).subset h)
  · intro h
    rw [Text.trimBy, List.mem_reverse]
    exact mem_dropWhile_of_neg hc (List.mem_reverse.mpr (mem_dropWhile_of_neg hc h))

/-- A slash at the end of a text counts, and so does all before it that is not cut off in front. -/
theorem clean_concat {s t : String} (h : t.toList = s.toList ++ ['/']) :
    clean t = (kept s).dropWhile isEdge ++ ['/'] := by
  have hkept : kept t = kept s ++ ['/'] := by
    rw [kept, h, List.filter_append]
    rfl
  rw [clean_eq, hkept, trimBy_concat (by decide)]

/-- A slash behind a text that nothing is cut off from the end of stands behind what counts. -/
theorem clean_concat_of_getLast? {s t : String} (h : t.toList = s.toList ++ ['/'])
    (hlast : ∀ c ∈ (kept s).getLast?, ¬ isEdge c) :
    clean t = clean s ++ ['/'] ∧ (clean s).getLast? = (kept s).getLast? := by
  rw [clean_concat h, clean_eq]
  generalize kept s = k at hlast
  induction k using List.reverseRecOn with
  | nil => exact ⟨rfl, rfl⟩
  | append_singleton k c _ =>
    have hc : ¬ isEdge c := hlast c List.getLast?_concat
    rw [trimBy_concat hc, dropWhile_concat hc, List.getLast?_concat, List.getLast?_concat]
    exact ⟨rfl, rfl⟩

/-! ## Schemes -/

theorem readScheme?_eq_some {s rest : List Char} :
    readScheme? s = some (scheme, rest) ↔
      ∃ c more, s = c :: more ++ ':' :: rest ∧ (∀ d ∈ c :: more, isSchemeChar d) ∧ c.isAlpha ∧
        scheme = ⟨String.ofList ((c :: more).map Char.toLower)⟩ := by
  unfold readScheme?
  rw [List.span_eq_takeWhile_dropWhile]
  constructor
  · intro h
    split at h
    · rename_i c more rest' heq
      obtain ⟨hfront, hback⟩ := Prod.mk.inj heq
      split at h
      · rename_i hc
        cases h
        refine ⟨c, more, ?_, ?_, hc, rfl⟩
        · rw [← hfront, ← hback, List.takeWhile_append_dropWhile]
        · intro d hd
          exact List.mem_takeWhile_imp (hfront ▸ hd)
      · cases h
    · cases h
  · rintro ⟨c, more, rfl, hall, hc, rfl⟩
    rw [List.takeWhile_append_of_pos hall, List.dropWhile_append_of_pos hall,
      List.takeWhile_cons_of_neg (by decide), List.dropWhile_cons_of_neg (by decide),
      List.append_nil]
    exact if_pos hc

/-- Text behind a URL is behind what comes after the scheme, unless there was none yet. -/
theorem readScheme?_append {a x rest' : List Char}
    (h : readScheme? (a ++ x) = some (scheme, rest')) :
    (∃ rest, readScheme? a = some (scheme, rest) ∧ rest' = rest ++ x) ∨
      (∀ c ∈ a, isSchemeChar c) ∧ ':' ∈ x := by
  obtain ⟨c, more, hparts, hall, hc, hscheme⟩ := readScheme?_eq_some.mp h
  rcases List.append_eq_append_iff.mp hparts with ⟨t, hfront, hx⟩ | ⟨t, ha, hback⟩
  · exact .inr ⟨fun d hd => hall d (hfront ▸ List.mem_append_left t hd), hx ▸ by simp⟩
  · cases t with
    | nil =>
      rw [List.append_nil] at ha
      exact .inr ⟨ha ▸ hall, by rw [← List.nil_append x, ← hback]; exact List.mem_cons_self⟩
    | cons d rest =>
      obtain ⟨rfl, rfl⟩ := List.cons.inj hback
      exact .inl ⟨rest, readScheme?_eq_some.mpr ⟨c, more, ha, hall, hc, hscheme⟩, rfl⟩

theorem readScheme?_suffix {s rest : List Char} (h : readScheme? s = some (scheme, rest)) :
    ':' :: rest <:+ s := by
  obtain ⟨c, more, rfl, -⟩ := readScheme?_eq_some.mp h
  exact List.suffix_append (c :: more) _

theorem mem_of_readScheme? {s rest : List Char} (h : readScheme? s = some (scheme, rest)) {c : Char}
    (hscheme : ¬ isSchemeChar c) (hcolon : c ≠ ':') (hc : c ∈ s) : c ∈ rest := by
  obtain ⟨d, more, rfl, hall, -⟩ := readScheme?_eq_some.mp h
  rcases List.mem_append.mp hc with hc | hc
  · exact absurd (hall c hc) hscheme
  · exact (List.mem_cons.mp hc).resolve_left hcolon

/-! ## Queries and fragments -/

theorem cutAt_fst (sign : Char) (s : List Char) : (cutAt sign s).1 = s.takeWhile (· != sign) := by
  unfold cutAt
  rw [List.span_eq_takeWhile_dropWhile]
  split
  · rename_i heq
    exact (Prod.mk.inj heq).1.symm
  · rename_i heq
    exact (Prod.mk.inj heq).1.symm

/-- What stands before the query and the fragment. -/
def beforeTails (s : List Char) : List Char := (s.takeWhile (· != '#')).takeWhile (· != '?')

theorem cutTails_fst (s : List Char) : (cutTails scheme s).1 = beforeTails s := by
  show (cutAt '?' (cutAt '#' s).1).1 = _
  rw [cutAt_fst, cutAt_fst]
  rfl

theorem takeWhile_ne_of_not_mem {sign : Char} {s : List Char} (h : sign ∉ s) :
    s.takeWhile (· != sign) = s := by
  rw [List.takeWhile_eq_self_iff]
  intro c hc
  rw [bne_iff_ne]
  rintro rfl
  exact h hc

theorem takeWhile_ne_append {sign : Char} {s : List Char} (h : sign ∈ s) (x : List Char) :
    (s ++ x).takeWhile (· != sign) = s.takeWhile (· != sign) := by
  rw [List.takeWhile_append, if_neg]
  intro hlength
  have hall := (List.takeWhile_prefix (· != sign)).eq_of_length hlength
  rw [List.takeWhile_eq_self_iff] at hall
  exact absurd (hall sign h) (by simp)

/-- Where there is neither query nor fragment, nothing is cut off. -/
theorem beforeTails_eq_self {s : List Char} (hquery : '?' ∉ s) (hfragment : '#' ∉ s) :
    beforeTails s = s := by
  rw [beforeTails, takeWhile_ne_of_not_mem hfragment, takeWhile_ne_of_not_mem hquery]

/-- What is put behind a query or a fragment changes nothing before it. -/
theorem beforeTails_append {s : List Char} (h : '?' ∈ s ∨ '#' ∈ s) (x : List Char) :
    beforeTails (s ++ x) = beforeTails s := by
  unfold beforeTails
  by_cases hfragment : '#' ∈ s
  · rw [takeWhile_ne_append hfragment]
  · have hquery := h.resolve_right hfragment
    have hall : ∀ c ∈ s, (c != '#') = true := by
      intro c hc
      rw [bne_iff_ne]
      rintro rfl
      exact hfragment hc
    rw [List.takeWhile_append_of_pos hall, takeWhile_ne_append hquery,
      takeWhile_ne_of_not_mem hfragment]

/-! ## Whole texts -/

theorem read_eq_ok {s : String} {u : Url} :
    read s = .ok u ↔
      ∃ rest, readScheme? (clean s) = some (u.scheme, rest) ∧
        readBody u.scheme (beforeTails rest) = .ok (u.authority, u.path) ∧
        (cutTails u.scheme rest).2 = (u.query, u.fragment) := by
  unfold read
  constructor
  · intro h
    split at h
    · cases h
    · rename_i scheme rest hscheme
      simp only [bind, Except.bind, cutTails_fst] at h
      split at h
      · cases h
      · rename_i found hbody
        cases h
        exact ⟨rest, hscheme, hbody, rfl⟩
  · rintro ⟨rest, hscheme, hbody, htails⟩
    rw [hscheme]
    simp only [bind, Except.bind, cutTails_fst, hbody, htails]
    rfl

/-- The text goes on to a query or to a fragment. -/
def HasTail (s : String) : Prop := '?' ∈ s.toList ∨ '#' ∈ s.toList

instance (s : String) : Decidable (HasTail s) := inferInstanceAs (Decidable (_ ∨ _))

theorem not_mem_of_not_hasTail {s : String} (htail : ¬ HasTail s) {rest : List Char}
    (hrest : rest ⊆ clean s) : '?' ∉ rest ∧ '#' ∉ rest where
  left h := htail (.inl ((mem_clean (by decide)).mp (hrest h)))
  right h := htail (.inr ((mem_clean (by decide)).mp (hrest h)))

/-- **What is read of a text that ends in a slash has nothing behind its last slash.** -/
theorem read_endsOpen {t : String} {u : Url} (h : read t = .ok u) (htail : ¬ HasTail t)
    {k : List Char} (hslash : clean t = k ++ ['/']) {l : List (List Char)}
    (hpath : u.path = .segments l) : EndsOpen l := by
  obtain ⟨rest, hscheme, hbody, -⟩ := read_eq_ok.mp h
  have hsuffix := readScheme?_suffix hscheme
  have hrest := (List.suffix_cons ':' rest).trans hsuffix
  obtain ⟨hquery, hfragment⟩ := not_mem_of_not_hasTail htail hrest.subset
  rw [beforeTails_eq_self hquery hfragment, hpath] at hbody
  rw [hslash] at hrest
  obtain ⟨q, hq, hreads⟩ := readBody_reads hbody
  exact hreads.endsOpen (hq.trans hrest)

theorem read_slashFree {t : String} {u : Url} (h : read t = .ok u) {l : List (List Char)}
    (hpath : u.path = .segments l) : SlashFree l := by
  obtain ⟨rest, -, hbody, -⟩ := read_eq_ok.mp h
  rw [hpath] at hbody
  obtain ⟨q, -, hreads⟩ := readBody_reads hbody
  exact hreads.slashFree

/-- **A slash behind the text of a URL closes its path** and changes nothing else, where the text
has no query and no fragment. -/
theorem read_closes {s t : String} {u' : Url} (h : read t = .ok u') (htail : ¬ HasTail s)
    (hslash : clean t = clean s ++ ['/']) (hlast : ¬ EndsInSlash u'.scheme (clean s))
    {l : List (List Char)} (hpath : u'.path = .segments l) :
    ∃ u, read s = .ok u ∧ u.scheme = u'.scheme ∧ u.authority = u'.authority ∧
      u.path.Closes u'.path := by
  obtain ⟨rest', hscheme, hbody, -⟩ := read_eq_ok.mp h
  rw [hslash] at hscheme
  obtain ⟨rest, hrest, rfl⟩ | ⟨-, hcolon⟩ := readScheme?_append hscheme
  · have hsuffix := (List.suffix_cons ':' rest).trans (readScheme?_suffix hrest)
    obtain ⟨hquery, hfragment⟩ := not_mem_of_not_hasTail htail hsuffix.subset
    rw [beforeTails_eq_self (by simpa using hquery) (by simpa using hfragment), hpath] at hbody
    have hend : ¬ EndsInSlash u'.scheme rest := by
      obtain ⟨front, hfront⟩ := hsuffix
      exact fun hend => hlast (hfront ▸ hend.append)
    obtain ⟨p, hp, hcloses⟩ := closes_readBody hend hbody
    refine ⟨⟨u'.scheme, u'.authority, p, (cutTails u'.scheme rest).2.1,
      (cutTails u'.scheme rest).2.2⟩, read_eq_ok.mpr ⟨rest, hrest, ?_, rfl⟩, rfl, rfl, ?_⟩
    · rw [beforeTails_eq_self hquery hfragment]
      exact hp
    · rw [hpath]
      exact hcloses
  · exact absurd hcolon (by decide)

/-- **What is put behind a query or a fragment changes nothing before it.** -/
theorem read_tail {s t : String} {u' : Url} (h : read t = .ok u') (htail : HasTail s)
    (hfront : clean s <+: clean t) :
    ∃ u, read s = .ok u ∧ u.scheme = u'.scheme ∧ u.authority = u'.authority ∧ u.path = u'.path := by
  obtain ⟨rest', hscheme, hbody, -⟩ := read_eq_ok.mp h
  obtain ⟨x, hx⟩ := hfront
  rw [← hx] at hscheme
  have hmem : '?' ∈ clean s ∨ '#' ∈ clean s :=
    htail.imp (mem_clean (by decide)).mpr (mem_clean (by decide)).mpr
  obtain ⟨rest, hrest, rfl⟩ | ⟨hall, -⟩ := readScheme?_append hscheme
  · have hbehind : '?' ∈ rest ∨ '#' ∈ rest :=
      hmem.imp (mem_of_readScheme? hrest (by decide) (by decide))
        (mem_of_readScheme? hrest (by decide) (by decide))
    rw [beforeTails_append hbehind] at hbody
    exact ⟨⟨u'.scheme, u'.authority, u'.path, (cutTails u'.scheme rest).2.1,
      (cutTails u'.scheme rest).2.2⟩, read_eq_ok.mpr ⟨rest, hrest, hbody, rfl⟩, rfl, rfl, rfl⟩
  · rcases hmem with hmem | hmem
    · exact absurd (hall _ hmem) (by decide)
    · exact absurd (hall _ hmem) (by decide)

end UsageFeed.Url
