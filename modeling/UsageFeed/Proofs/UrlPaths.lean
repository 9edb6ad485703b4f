import Mathlib.Data.List.Basic
import Mathlib.Data.List.Induction
import Mathlib.Data.List.TakeDrop
import Mathlib.Data.List.TakeWhile
import UsageFeed.Url.Reader

/-!
# `UsageFeed.Proofs.UrlPaths` — a path with a slash put behind it

A slash at the end of a path's text makes the path that is read end in a slash, and changes nothing
else of it: a path that ends in a slash already, because its last segment leads nowhere or up, stays
as it is.

## Contents
- **Texts of paths.** `closed`, a path with a slash at its end, and `opened`, a path up to its last
  slash; `closeSegments` for segments, and `writeSegments_closeSegments`, the one for the other.
- **Segments.** `stepped`, where one segment leads; `follow_closed` and `getLast?_follow`, an end
  behind segments that are followed.
- **Segments of a path.** `readSegments_closed` and `getLast?_readSegments`, what a slash at the end
  of a text does to them.
- **Slashes in segments.** `SlashFree`, kept by each step of reading.
- **Paths.** `Path.Closes`, and `closes_readPath` for the path after a host.
- **What segments are read from.** `ReadFrom`, the ways to come to segments, and
  `ReadFrom.endsOpen`.
-/

namespace UsageFeed.Url

/-! ## Texts of paths -/

/-- The text of a path with a slash at its end: one is put there unless there is one. -/
def closed (path : List Char) : List Char :=
  if path.getLast? = some '/' then path else path ++ ['/']

/-- The text of a path up to its last slash. An empty path is taken for one slash. -/
def opened (path : List Char) : List Char :=
  if path = [] then ['/'] else (path.reverse.dropWhile (· != '/')).reverse

/-- Segments with an empty one at their end: one is put there unless there is one. -/
def closeSegments (l : List (List Char)) : List (List Char) :=
  if l.getLast? = some [] then l else l ++ [[]]

theorem writeSegments_concat (l : List (List Char)) (s : List Char) :
    Path.writeSegments (l ++ [s]) = Path.writeSegments l ++ '/' :: s := by
  simp [Path.writeSegments]

/-- No segment has a slash in it. -/
def SlashFree (l : List (List Char)) : Prop := ∀ s ∈ l, '/' ∉ s

theorem closed_concat {path s : List Char} (h : '/' ∉ s) :
    closed (path ++ '/' :: s) = if s = [] then path ++ ['/'] else path ++ '/' :: s ++ ['/'] := by
  unfold closed
  induction s using List.reverseRecOn with
  | nil => rw [if_pos rfl, if_pos List.getLast?_concat]
  | append_singleton init c _ =>
    have hlast : (path ++ '/' :: (init ++ [c])).getLast? = some c := by
      rw [← List.cons_append, ← List.append_assoc, List.getLast?_concat]
    have hc : ¬ some c = some '/' := by
      rintro ⟨⟩
      exact h (by simp)
    rw [hlast, if_neg hc, if_neg (by simp)]

theorem closed_closed (path : List Char) : closed (closed path) = closed path := by
  have hlast : (closed path).getLast? = some '/' := by
    rw [closed]
    split
    · assumption
    · exact List.getLast?_concat
  rw [closed, if_pos hlast]

theorem opened_concat {path s : List Char} (h : '/' ∉ s) :
    opened (path ++ '/' :: s) = path ++ ['/'] := by
  have hall : ∀ c ∈ s.reverse, (c != '/') = true := by
    intro c hc
    rw [bne_iff_ne]
    rintro rfl
    exact h (List.mem_reverse.mp hc)
  unfold opened
  rw [if_neg (by simp), List.reverse_append, List.reverse_cons, List.append_assoc,
    List.dropWhile_append_of_pos hall]
  simp

/-- **Closing segments closes the text of the path.** -/
theorem writeSegments_closeSegments {l : List (List Char)} (h : SlashFree l) :
    Path.writeSegments (closeSegments l) = closed (Path.writeSegments l) := by
  induction l using List.reverseRecOn with
  | nil => rfl
  | append_singleton l s _ =>
    have hs : '/' ∉ s := h s (by simp)
    unfold closeSegments
    rw [List.getLast?_concat, writeSegments_concat, closed_concat hs]
    by_cases hempty : s = []
    · rw [if_pos hempty, if_pos (congrArg some hempty), writeSegments_concat, hempty]
    · rw [if_neg hempty, if_neg fun heq => hempty (Option.some.inj heq), writeSegments_concat,
        writeSegments_concat]

/-! ## Segments -/

/-- Where one segment leads. The last one leads to the end of the path, which is empty where it
names nothing. -/
def stepped (scheme : Scheme) (l : List (List Char)) (s : List Char) (last : Bool) :
    List (List Char) :=
  let s := Percent.encode Percent.inPath s
  let ending := if last then [[]] else []
  if isUp s then leadUp l ++ ending
  else if isHere s then l ++ ending
  else if scheme.isFile && l.isEmpty && isDriveText s then [s.take 1 ++ [':']]
  else l ++ [s]

theorem follow_cons (scheme : Scheme) (l : List (List Char)) (s : List Char)
    (more : List (List Char)) :
    follow scheme l (s :: more) = follow scheme (stepped scheme l s more.isEmpty) more := rfl

variable {scheme : Scheme}

theorem encode_ne_nil {inSet : Char → Bool} {s : List Char} (h : s ≠ []) :
    Percent.encode inSet s ≠ [] := by
  obtain ⟨c, s, rfl⟩ := List.exists_cons_of_ne_nil h
  have hc : Percent.encodeChar inSet c ≠ [] := by
    have hbytes : String.utf8EncodeChar c ≠ [] := by
      intro hnil
      have hsize := String.length_utf8EncodeChar c
      rw [hnil] at hsize
      exact absurd hsize.symm (Nat.ne_of_gt c.utf8Size_pos)
    unfold Percent.encodeChar
    split
    · obtain ⟨b, bytes, hb⟩ := List.exists_cons_of_ne_nil hbytes
      rw [hb]
      simp [Percent.escape]
    · exact List.cons_ne_nil c []
  unfold Percent.encode
  rw [List.flatMap_cons]
  exact List.append_ne_nil_of_left_ne_nil hc _

/-- An empty segment at the end is the end of the path. -/
theorem stepped_nil (l : List (List Char)) : stepped scheme l [] true = l ++ [[]] := by
  simp [stepped, Percent.encode, isUp, isHere, isDriveText]

/-- A segment that is not empty leads to a path that the end closes. -/
theorem stepped_closed (l : List (List Char)) {s : List Char} (h : s ≠ []) :
    stepped scheme l s false ++ [[]] = closeSegments (stepped scheme l s true) := by
  have hs : Percent.encode Percent.inPath s ≠ [] := encode_ne_nil h
  unfold stepped
  generalize Percent.encode Percent.inPath s = s' at hs
  simp only [Bool.false_eq_true, if_false, if_true, List.append_nil]
  unfold closeSegments
  by_cases hup : isUp s'
  · rw [if_pos hup, if_pos hup, if_pos List.getLast?_concat]
  rw [if_neg hup, if_neg hup]
  by_cases hhere : isHere s'
  · rw [if_pos hhere, if_pos hhere, if_pos List.getLast?_concat]
  rw [if_neg hhere, if_neg hhere]
  split
  · rw [if_neg (by simp)]
  · rw [List.getLast?_concat, if_neg fun heq => hs (Option.some.inj heq)]

/-- An end behind segments closes what they lead to. -/
theorem follow_closed {l parts : List (List Char)} (hparts : parts ≠ [])
    (hlast : parts.getLast? ≠ some []) :
    follow scheme l (parts ++ [[]]) = closeSegments (follow scheme l parts) := by
  induction parts generalizing l with
  | nil => exact absurd rfl hparts
  | cons s more ih =>
    rw [List.cons_append, follow_cons, follow_cons]
    cases more with
    | nil =>
      have hs : s ≠ [] := fun heq => hlast (congrArg some heq)
      rw [List.nil_append, follow_cons]
      show stepped scheme (stepped scheme l s false) [] true = closeSegments (stepped scheme l s true)
      rw [stepped_nil, stepped_closed l hs]
    | cons s' more =>
      rw [List.getLast?_cons_cons] at hlast
      exact ih (List.cons_ne_nil s' more) hlast

/-- With an end behind them, segments lead to a path that is closed. -/
theorem getLast?_follow (l parts : List (List Char)) :
    (follow scheme l (parts ++ [[]])).getLast? = some [] := by
  induction parts generalizing l with
  | nil =>
    rw [List.nil_append, follow_cons]
    show (stepped scheme l [] true).getLast? = some []
    rw [stepped_nil, List.getLast?_concat]
  | cons s more ih =>
    rw [List.cons_append, follow_cons]
    exact ih _

theorem follow_ne_nil {l parts : List (List Char)} (h : l ≠ [] ∨ parts ≠ []) :
    follow scheme l parts ≠ [] := by
  induction parts generalizing l with
  | nil => exact h.resolve_right fun hne => hne rfl
  | cons s more ih =>
    rw [follow_cons]
    cases more with
    | cons s' more => exact ih (.inr (List.cons_ne_nil s' more))
    | nil =>
      show stepped scheme l s true ≠ []
      unfold stepped
      simp only [if_true]
      repeat' split
      all_goals simp

/-- The text ends in a slash. -/
def EndsInSlash (scheme : Scheme) (p : List Char) : Prop := ∃ c ∈ p.getLast?, isSlash scheme c

theorem isSlash_slash (scheme : Scheme) : isSlash scheme '/' = true := rfl

/-- The last part of a text that does not end in a slash is not empty. -/
theorem getLast?_splitOnP {p : List Char} (hp : p ≠ []) (hlast : ¬ EndsInSlash scheme p) :
    (p.splitOnP (isSlash scheme)).getLast? ≠ some [] := by
  induction p with
  | nil => exact absurd rfl hp
  | cons c p ih =>
    rw [List.splitOnP_cons_eq_if_modifyHead]
    cases p with
    | nil =>
      have hc : ¬ isSlash scheme c := fun hc => hlast ⟨c, rfl, hc⟩
      rw [if_neg hc, List.splitOnP_nil]
      simp
    | cons d p =>
      have hrest : ¬ EndsInSlash scheme (d :: p) := by
        rintro ⟨e, he, hslash⟩
        exact hlast ⟨e, by rwa [List.getLast?_cons_cons], hslash⟩
      have hne := List.splitOnP_ne_nil (isSlash scheme) (d :: p)
      have hmore := ih (List.cons_ne_nil d p) hrest
      split
      · rwa [List.getLast?_cons_of_ne_nil hne]
      · obtain ⟨part, parts, hparts⟩ := List.exists_cons_of_ne_nil hne
        rw [hparts] at hmore ⊢
        rw [List.modifyHead_cons]
        cases parts with
        | nil => simp
        | cons part' parts => rwa [List.getLast?_cons_cons] at hmore ⊢

theorem splitOnP_slash (p : List Char) :
    (p ++ ['/']).splitOnP (isSlash scheme) = p.splitOnP (isSlash scheme) ++ [[]] := by
  rw [List.splitOnP_append_cons p [] (isSlash_slash scheme), List.splitOnP_nil]

theorem walk_nil : walk scheme [] = [[]] := by
  rw [walk, List.splitOnP_nil, follow_cons]
  exact stepped_nil []

theorem walk_ne_nil (p : List Char) : walk scheme p ≠ [] :=
  follow_ne_nil (.inr (List.splitOnP_ne_nil _ p))

theorem walk_closed {p : List Char} (hp : p ≠ []) (hlast : ¬ EndsInSlash scheme p) :
    walk scheme (p ++ ['/']) = closeSegments (walk scheme p) := by
  rw [walk, splitOnP_slash, follow_closed (List.splitOnP_ne_nil _ p) (getLast?_splitOnP hp hlast)]
  rfl

theorem getLast?_walk (p : List Char) : (walk scheme (p ++ ['/'])).getLast? = some [] := by
  rw [walk, splitOnP_slash]
  exact getLast?_follow [] _

/-! ## Segments of a path -/

/-- Only a path of nothing but empty segments has nothing left without those ahead. -/
theorem dropWhile_isEmpty_ne_nil {l : List (List Char)} (h : l ≠ [])
    (hlast : l.getLast? ≠ some []) : l.dropWhile List.isEmpty ≠ [] := by
  intro hnil
  have hall := List.dropWhile_eq_nil_iff.mp hnil
  obtain ⟨s, hs⟩ := List.getLast?_isSome.mpr h |> Option.isSome_iff_exists.mp
  have hempty := List.isEmpty_iff.mp (hall s (List.mem_of_getLast? hs))
  exact hlast (hempty ▸ hs)

theorem getLast?_dropEmpty {l : List (List Char)} (h : l ≠ []) :
    (dropEmpty l).getLast? = l.getLast? := by
  unfold dropEmpty
  have hparts := List.takeWhile_append_dropWhile (p := List.isEmpty) (l := l)
  cases hdrop : l.dropWhile List.isEmpty with
  | nil =>
    have hlast : l.getLast? = some [] := by
      by_contra hlast
      exact dropWhile_isEmpty_ne_nil h hlast hdrop
    rw [hlast]
    rfl
  | cons s rest =>
    rw [hdrop] at hparts
    rw [← hparts, List.getLast?_append_of_ne_nil _ (List.cons_ne_nil s rest)]
    rfl

theorem dropEmpty_closed {l : List (List Char)} (h : l ≠ []) :
    dropEmpty (closeSegments l) = closeSegments (dropEmpty l) := by
  have hsame := getLast?_dropEmpty h
  unfold closeSegments
  rw [hsame]
  by_cases hlast : l.getLast? = some []
  · rw [if_pos hlast, if_pos hlast]
  · have hsome := dropWhile_isEmpty_ne_nil h hlast
    rw [if_neg hlast, if_neg hlast]
    unfold dropEmpty
    rw [List.dropWhile_append]
    simp [List.isEmpty_iff, hsome]

theorem readSegments_closed {p : List Char} (hp : p ≠ []) (hlast : ¬ EndsInSlash scheme p) :
    readSegments scheme (p ++ ['/']) = closeSegments (readSegments scheme p) := by
  unfold readSegments
  rw [walk_closed hp hlast]
  split
  · exact dropEmpty_closed (walk_ne_nil p)
  · rfl

theorem getLast?_readSegments (p : List Char) :
    (readSegments scheme (p ++ ['/'])).getLast? = some [] := by
  unfold readSegments
  split
  · rw [getLast?_dropEmpty (walk_ne_nil _), getLast?_walk]
  · exact getLast?_walk p

theorem readSegments_nil (scheme : Scheme) : readSegments scheme [] = [[]] := by
  unfold readSegments
  rw [walk_nil]
  split <;> rfl

/-! ## Slashes in segments -/

theorem not_mem_escape (b : UInt8) : '/' ∉ Percent.escape b := by
  have hdigit : ∀ n < 16, Percent.hexDigit n ≠ '/' := by decide
  have hhigh := hdigit (b.toNat / 16) (by have := b.toNat_lt; omega)
  have hlow := hdigit (b.toNat % 16) (Nat.mod_lt _ (by decide))
  simp [Percent.escape, hhigh.symm, hlow.symm]

theorem not_mem_encode {inSet : Char → Bool} {s : List Char} (h : '/' ∉ s) :
    '/' ∉ Percent.encode inSet s := by
  intro hmem
  obtain ⟨c, hc, hmem⟩ := List.mem_flatMap.mp hmem
  unfold Percent.encodeChar at hmem
  split at hmem
  · obtain ⟨b, _, hb⟩ := List.mem_flatMap.mp hmem
    exact not_mem_escape b hb
  · exact h (List.mem_singleton.mp hmem ▸ hc)

theorem SlashFree.append {l l' : List (List Char)} (h : SlashFree l) (h' : SlashFree l') :
    SlashFree (l ++ l') := List.forall_mem_append.mpr ⟨h, h'⟩

theorem SlashFree.of_subset {l l' : List (List Char)} (h : SlashFree l) (hl : l' ⊆ l) :
    SlashFree l' := fun s hs => h s (hl hs)

theorem slashFree_singleton {s : List Char} (h : '/' ∉ s) : SlashFree [s] := by
  intro s' hs
  rwa [List.mem_singleton.mp hs]

theorem slashFree_nil : SlashFree [[]] := slashFree_singleton List.not_mem_nil

theorem slashFree_splitOnP (p : List Char) : SlashFree (p.splitOnP (isSlash scheme)) := by
  induction p with
  | nil =>
    rw [List.splitOnP_nil]
    exact slashFree_nil
  | cons c p ih =>
    rw [List.splitOnP_cons_eq_if_modifyHead]
    obtain ⟨part, parts, hparts⟩ := List.exists_cons_of_ne_nil
      (List.splitOnP_ne_nil (isSlash scheme) p)
    rw [hparts] at ih ⊢
    split
    · exact slashFree_nil.append ih
    · rename_i hc
      obtain ⟨hpart, hrest⟩ := List.forall_mem_cons.mp ih
      have hne : '/' ≠ c := by
        rintro rfl
        exact hc (isSlash_slash scheme)
      exact List.forall_mem_cons.mpr ⟨by simp [hne, hpart], hrest⟩

theorem slashFree_stepped {l : List (List Char)} (hl : SlashFree l) {s : List Char}
    (hs : '/' ∉ s) (last : Bool) : SlashFree (stepped scheme l s last) := by
  have hs' : '/' ∉ Percent.encode Percent.inPath s := not_mem_encode hs
  have hup : SlashFree (leadUp l) := by
    unfold leadUp
    split
    · exact hl
    · exact hl.of_subset (List.dropLast_subset l)
  have hending : SlashFree (if last then [[]] else []) := by
    cases last with
    | true => exact slashFree_nil
    | false => exact fun _ h => absurd h List.not_mem_nil
  unfold stepped
  generalize Percent.encode Percent.inPath s = s' at hs'
  simp only
  split
  · exact hup.append hending
  split
  · exact hl.append hending
  split
  · refine slashFree_singleton fun h => ?_
    rcases List.mem_append.mp h with h | h
    · exact hs' (List.mem_of_mem_take h)
    · exact absurd (List.mem_singleton.mp h) (by decide)
  · exact hl.append (slashFree_singleton hs')

theorem slashFree_follow {l parts : List (List Char)} (hl : SlashFree l)
    (hparts : SlashFree parts) : SlashFree (follow scheme l parts) := by
  induction parts generalizing l with
  | nil => exact hl
  | cons s more ih =>
    obtain ⟨hs, hmore⟩ := List.forall_mem_cons.mp hparts
    rw [follow_cons]
    exact ih (slashFree_stepped hl hs _) hmore

theorem slashFree_walk (p : List Char) : SlashFree (walk scheme p) :=
  slashFree_follow (fun _ h => absurd h List.not_mem_nil) (slashFree_splitOnP p)

theorem slashFree_dropEmpty {l : List (List Char)} (h : SlashFree l) :
    SlashFree (dropEmpty l) := by
  unfold dropEmpty
  simp only
  split
  · exact slashFree_nil
  · exact h.of_subset (List.dropWhile_sublist _).subset

theorem slashFree_readSegments (p : List Char) : SlashFree (readSegments scheme p) := by
  unfold readSegments
  split
  · exact slashFree_dropEmpty (slashFree_walk p)
  · exact slashFree_walk p

/-! ## Paths -/

/-- The text of a path is that of another with a slash at its end. -/
def Path.Closes (p p' : Path) : Prop := p'.write = closed p.write

theorem closes_of_closeSegments {l l' : List (List Char)} (hfree : SlashFree l)
    (h : l' = closeSegments l) : Path.Closes (.segments l) (.segments l') :=
  h ▸ writeSegments_closeSegments hfree

theorem closes_readSegments {p : List Char} (hp : p ≠ []) (hlast : ¬ EndsInSlash scheme p) :
    Path.Closes (.segments (readSegments scheme p)) (.segments (readSegments scheme (p ++ ['/']))) :=
  closes_of_closeSegments (slashFree_readSegments p) (readSegments_closed hp hlast)

/-- The root, written by a slash or by nothing, is closed. -/
theorem closes_root : Path.Closes (.segments [[]]) (.segments [[]]) := rfl

theorem EndsInSlash.cons {c : Char} {p : List Char} (h : EndsInSlash scheme p) :
    EndsInSlash scheme (c :: p) := by
  obtain ⟨d, hd, hslash⟩ := h
  refine ⟨d, ?_, hslash⟩
  rw [List.getLast?_cons, hd]
  rfl

theorem EndsInSlash.append {q p : List Char} (h : EndsInSlash scheme p) :
    EndsInSlash scheme (q ++ p) := by
  induction q with
  | nil => exact h
  | cons c q ih => exact ih.cons

theorem not_endsInSlash_append {q p : List Char} (hq : ∀ c ∈ q, ¬ isSlash scheme c)
    (hp : ¬ EndsInSlash scheme p) : ¬ EndsInSlash scheme (q ++ p) := by
  rintro ⟨c, hc, hslash⟩
  cases p with
  | nil =>
    rw [List.append_nil] at hc
    exact hq c (List.mem_of_getLast? hc) hslash
  | cons d p =>
    rw [List.getLast?_append_of_ne_nil q (List.cons_ne_nil d p)] at hc
    exact hp ⟨c, hc, hslash⟩

theorem closes_readPath {p : List Char} (hlast : ¬ EndsInSlash scheme p) :
    (readPath scheme p).Closes (readPath scheme (p ++ ['/'])) := by
  cases p with
  | nil =>
    show Path.Closes (.segments (if scheme.isCommon then [[]] else []))
      (.segments (readSegments scheme []))
    rw [readSegments_nil]
    split <;> rfl
  | cons c p =>
    unfold readPath
    rw [List.cons_append]
    simp only
    by_cases hc : isSlash scheme c
    · rw [if_pos hc, if_pos hc]
      refine closes_readSegments ?_ fun h => hlast h.cons
      rintro rfl
      exact hlast ⟨c, rfl, hc⟩
    · rw [if_neg hc, if_neg hc]
      exact closes_readSegments (List.cons_ne_nil c p) hlast

/-! ## What segments are read from -/

/-- The segments are those that a text leads to, from its beginning or from behind the host of a
file. Without a text there may be no segments. -/
inductive ReadFrom (scheme : Scheme) : List Char → List (List Char) → Prop
  | nothing : ReadFrom scheme [] []
  | segments (q : List Char) : ReadFrom scheme q (readSegments scheme q)
  | hosted (q : List Char) : ReadFrom scheme q (dropEmpty (walk scheme q))

theorem ReadFrom.slashFree {q : List Char} {l : List (List Char)} (h : ReadFrom scheme q l) :
    SlashFree l := by
  cases h with
  | nothing => exact fun _ h => absurd h List.not_mem_nil
  | segments => exact slashFree_readSegments q
  | hosted => exact slashFree_dropEmpty (slashFree_walk q)

/-- Nothing stands behind the last slash of the segments. -/
def EndsOpen (l : List (List Char)) : Prop := l.getLast?.getD [] = []

theorem endsOpen_of_getLast? {l : List (List Char)} (h : l.getLast? = some []) : EndsOpen l := by
  rw [EndsOpen, h]
  rfl

/-- **A text that ends in a slash leads to segments with nothing behind the last one.** -/
theorem ReadFrom.endsOpen {q m : List Char} {l : List (List Char)} (h : ReadFrom scheme q l)
    (hq : q <:+ m ++ ['/']) : EndsOpen l := by
  obtain rfl | ⟨t, rfl, -⟩ := List.suffix_concat_iff.mp hq
  · cases h with
    | nothing => rfl
    | segments => rw [readSegments_nil]; rfl
    | hosted => rw [walk_nil]; rfl
  · apply endsOpen_of_getLast?
    generalize hw : t ++ ['/'] = w at h
    cases h with
    | nothing => exact absurd hw (by simp)
    | segments => rw [← hw, getLast?_readSegments]
    | hosted => rw [getLast?_dropEmpty (walk_ne_nil w), ← hw, getLast?_walk]

/-- What the path after a host is read from. -/
theorem readPath_reads {q : List Char} {l : List (List Char)}
    (h : readPath scheme q = .segments l) : ∃ q', q' <:+ q ∧ ReadFrom scheme q' l := by
  cases q with
  | nil =>
    change Path.segments (if scheme.isCommon then [[]] else []) = .segments l at h
    split at h
    · cases h
      exact ⟨[], List.suffix_rfl, readSegments_nil scheme ▸ .segments []⟩
    · cases h
      exact ⟨[], List.suffix_rfl, .nothing⟩
  | cons c q =>
    rw [readPath] at h
    cases h
    split
    · exact ⟨q, List.suffix_cons c q, .segments q⟩
    · exact ⟨c :: q, List.suffix_rfl, .segments _⟩

end UsageFeed.Url
