import UsageFeed.Proofs.UrlPaths

/-!
# `UsageFeed.Proofs.AfterScheme` — a slash put behind what comes after a scheme

Hosts are found before paths, so a slash at the end is part of the path whatever the scheme: a host
never reaches it, and what is left of the host for the path has no slash of its own.

## Contents
- **Files.** `readFile_slashes` and `readFile_plain`, the two ways of reading a file;
  `closes_readFile`, and `readFile_reads`, what the segments are read from.
- **Hosts.** `readAuthority_suffix`, what is left of a host; `readHosted`, a host with the path behind
  it, and `closes_readHosted`.
- **After the scheme.** `readBody_eq`, the three ways of reading on; `readBody_reads` and
  `closes_readBody`, put together from them.
-/

namespace UsageFeed.Url

variable {scheme : Scheme}

/-! ## Files -/

/-- What is read behind the two slashes of a file. -/
theorem readFile_slashes {a b : Char} (ha : isSlash scheme a) (hb : isSlash scheme b)
    (rest : List Char) :
    readFile scheme (a :: b :: rest) =
      let host := rest.takeWhile fun c => !isSlash scheme c
      let path := rest.dropWhile fun c => !isSlash scheme c
      if isDriveText host then .ok (some {}, .segments (readSegments scheme rest))
      else
        match readFileHost host with
        | .error e => .error e
        | .ok found =>
          if found.host.isNone then .ok (some {}, .segments (readSegments scheme path))
          else
            let segments := walk scheme (path.drop 1)
            .ok (some (if segments.head?.any isDrive then {} else found),
              .segments (dropEmpty segments)) := by
  rw [readFile, if_pos (by rw [ha, hb]; rfl), List.span_eq_takeWhile_dropWhile]
  simp only
  split
  · rfl
  · cases readFileHost (rest.takeWhile fun c => !isSlash scheme c) with
    | error e => rfl
    | ok found =>
      simp only [bind, Except.bind]
      split <;> rfl

/-- A slash behind a text is behind what comes after the host. -/
theorem takeWhile_slash (scheme : Scheme) (rest : List Char) :
    (rest ++ ['/']).takeWhile (fun c => !isSlash scheme c) =
        rest.takeWhile (fun c => !isSlash scheme c) ∧
      (rest ++ ['/']).dropWhile (fun c => !isSlash scheme c) =
        rest.dropWhile (fun c => !isSlash scheme c) ++ ['/'] := by
  rw [List.takeWhile_append, List.dropWhile_append]
  constructor
  · split
    · rename_i hlength
      simp [isSlash_slash, (List.takeWhile_prefix _).eq_of_length hlength]
    · rfl
  · split
    · rename_i hempty
      simp [isSlash_slash, List.isEmpty_iff.mp hempty]
    · rfl

theorem head?_closeSegments {l : List (List Char)} (h : l ≠ []) :
    (closeSegments l).head? = l.head? := by
  obtain ⟨s, more, rfl⟩ := List.exists_cons_of_ne_nil h
  unfold closeSegments
  split <;> rfl

/-- A file's path of one slash is the root. -/
theorem readSegments_slash (hfile : scheme.isFile) : readSegments scheme ['/'] = [[]] := by
  have hwalk : walk scheme ['/'] = [[], []] := by
    rw [← List.nil_append ['/'], walk, splitOnP_slash, List.splitOnP_nil, List.cons_append,
      List.nil_append, follow_cons, follow_cons]
    show stepped scheme (stepped scheme [] [] false) [] true = _
    rw [stepped_nil]
    simp [stepped, Percent.encode, isUp, isHere, isDriveText]
  rw [readSegments, if_pos hfile, hwalk]
  rfl

/-- A slash behind what comes after the host of a file closes the path. -/
theorem closes_filePath (hfile : scheme.isFile) {path : List Char}
    (hlast : ¬ EndsInSlash scheme path) :
    Path.Closes (.segments (readSegments scheme path))
      (.segments (readSegments scheme (path ++ ['/']))) := by
  cases path with
  | nil =>
    rw [List.nil_append, readSegments_nil, readSegments_slash hfile]
    exact closes_root
  | cons c path => exact closes_readSegments (List.cons_ne_nil c path) hlast

/-- So it does where the path goes on from a host; it begins with the same segment. -/
theorem closes_hostedPath {path : List Char} (hlast : ¬ EndsInSlash scheme path)
    (hslash : ∀ c ∈ path.head?, isSlash scheme c) :
    (walk scheme ((path ++ ['/']).drop 1)).head? = (walk scheme (path.drop 1)).head? ∧
      Path.Closes (.segments (dropEmpty (walk scheme (path.drop 1))))
        (.segments (dropEmpty (walk scheme ((path ++ ['/']).drop 1)))) := by
  cases path with
  | nil =>
    show (walk scheme []).head? = (walk scheme []).head? ∧ _
    refine ⟨rfl, ?_⟩
    show Path.Closes (.segments (dropEmpty (walk scheme []))) (.segments (dropEmpty (walk scheme [])))
    rw [walk_nil]
    exact closes_root
  | cons c path =>
    have hpath : path ≠ [] := by
      rintro rfl
      exact hlast ⟨c, rfl, hslash c rfl⟩
    have hclosed := walk_closed hpath fun h => hlast h.cons
    show (walk scheme (path ++ ['/'])).head? = (walk scheme path).head? ∧
      Path.Closes (.segments (dropEmpty (walk scheme path)))
        (.segments (dropEmpty (walk scheme (path ++ ['/']))))
    rw [hclosed]
    exact ⟨head?_closeSegments (walk_ne_nil path),
      closes_of_closeSegments (slashFree_dropEmpty (slashFree_walk path))
        (dropEmpty_closed (walk_ne_nil path))⟩

/-- The text begins with the two slashes that stand before a host. -/
def OpensHost (scheme : Scheme) (m : List Char) : Prop :=
  ∃ x y rest, m = x :: y :: rest ∧ isSlash scheme x ∧ isSlash scheme y

theorem readFile_plain {m : List Char} (h : ¬ OpensHost scheme m) :
    readFile scheme m = .ok (some {}, readPath scheme m) := by
  unfold readFile
  split
  · rename_i x y rest
    rw [if_neg]
    intro hxy
    exact h ⟨x, y, rest, rfl, Bool.and_eq_true_iff.mp hxy⟩
  · rfl

/-- A slash behind a text is not one of two at its front, unless the text ends in one itself. -/
theorem OpensHost.of_concat {m : List Char} (hlast : ¬ EndsInSlash scheme m)
    (h : OpensHost scheme (m ++ ['/'])) : OpensHost scheme m := by
  obtain ⟨x, y, rest, heq, hx, hy⟩ := h
  match m with
  | [] => cases heq
  | [c] =>
    cases heq
    exact absurd ⟨x, rfl, hx⟩ hlast
  | c :: d :: more =>
    cases heq
    exact ⟨x, y, more, rfl, hx, hy⟩

/-- **A slash behind the text of a file closes its path** and changes nothing else. -/
theorem closes_readFile (hfile : scheme.isFile) {m : List Char} (hlast : ¬ EndsInSlash scheme m)
    {a : Option Authority} {p' : Path} (h : readFile scheme (m ++ ['/']) = .ok (a, p')) :
    ∃ p, readFile scheme m = .ok (a, p) ∧ p.Closes p' := by
  by_cases hopens : OpensHost scheme m
  · obtain ⟨x, y, rest, rfl, hx, hy⟩ := hopens
    have hrest : ¬ EndsInSlash scheme rest := fun h => hlast h.cons.cons
    have hparts := List.takeWhile_append_dropWhile (p := fun c => !isSlash scheme c) (l := rest)
    have hhead : ∀ c ∈ (rest.dropWhile fun c => !isSlash scheme c).head?, isSlash scheme c := by
      intro c hc
      have hnot := List.head?_dropWhile_not (fun c => !isSlash scheme c) rest
      rw [hc] at hnot
      simpa using hnot
    have hpath : ¬ EndsInSlash scheme (rest.dropWhile fun c => !isSlash scheme c) :=
      fun h => hrest (hparts ▸ h.append)
    obtain ⟨hhost, hafter⟩ := takeWhile_slash scheme rest
    rw [List.cons_append, List.cons_append, readFile_slashes hx hy] at h
    rw [readFile_slashes hx hy]
    simp only [hhost, hafter] at h ⊢
    split at h
    · rename_i hdrive
      cases h
      refine ⟨_, if_pos hdrive, closes_readSegments ?_ hrest⟩
      rintro rfl
      cases hdrive
    rename_i hdrive
    rw [if_neg hdrive]
    split at h
    · cases h
    split at h
    · rename_i hnone
      cases h
      exact ⟨_, if_pos hnone, closes_filePath hfile hpath⟩
    · rename_i hnone
      obtain ⟨hfirst, hcloses⟩ := closes_hostedPath hpath hhead
      rw [hfirst] at h
      cases h
      exact ⟨_, if_neg hnone, hcloses⟩
  · rw [readFile_plain fun h => hopens (h.of_concat hlast)] at h
    cases h
    exact ⟨_, readFile_plain hopens, closes_readPath hlast⟩

theorem readFile_reads {m : List Char} {a : Option Authority} {l : List (List Char)}
    (h : readFile scheme m = .ok (a, .segments l)) : ∃ q, q <:+ m ∧ ReadFrom scheme q l := by
  by_cases hopens : OpensHost scheme m
  · obtain ⟨x, y, rest, rfl, hx, hy⟩ := hopens
    have hrest : rest <:+ x :: y :: rest := List.suffix_append [x, y] rest
    have hpath := (List.dropWhile_suffix fun c => !isSlash scheme c).trans hrest
    rw [readFile_slashes hx hy] at h
    simp only at h
    split at h
    · cases h
      exact ⟨rest, hrest, .segments rest⟩
    split at h
    · cases h
    split at h
    · cases h
      exact ⟨_, hpath, .segments _⟩
    · cases h
      exact ⟨_, (List.drop_suffix 1 _).trans hpath, .hosted _⟩
  · rw [readFile_plain hopens] at h
    exact readPath_reads (Prod.mk.inj (Except.ok.inj h)).2

/-! ## Hosts -/

theorem readPort_suffix {s rest : List Char} {port : Option Nat}
    (h : readPort scheme s = .ok (port, rest)) : rest <:+ s := by
  unfold readPort at h
  rw [List.span_eq_takeWhile_dropWhile] at h
  simp only at h
  split at h
  · cases h
  · cases h
    exact List.dropWhile_suffix Char.isDigit

theorem cutUser_suffix (s : List Char) : (cutUser s).2 <:+ s := by
  unfold cutUser
  simp only
  split
  · have h := List.takeWhile_prefix (l := s.reverse) (· != '@')
    rwa [← List.reverse_suffix, List.reverse_reverse] at h
  · exact List.suffix_rfl

theorem cutPort_suffix (inside : Bool) (s : List Char) :
    (cutPort inside s).2.getD [] <:+ s := by
  induction s generalizing inside with
  | nil => exact List.suffix_rfl
  | cons c s ih =>
    rw [cutPort]
    split
    · exact List.suffix_cons c s
    · exact (ih _).trans (List.suffix_cons c s)

theorem readAuthority_suffix {s rest : List Char} {a : Authority}
    (h : readAuthority scheme s = .ok (a, rest)) : rest <:+ s := by
  -- What is left comes from the port, which is read last.
  obtain ⟨port, hport⟩ :
      ∃ port, readPort scheme ((cutPort false (cutUser s).2).2.getD []) = .ok (port, rest) := by
    simp only [readAuthority, bind, Except.bind, pure, Except.pure, throw, throwThe,
      MonadExceptOf.throw] at h
    repeat' split at h
    all_goals cases h
    all_goals exact ⟨_, by assumption⟩
  exact (readPort_suffix hport).trans ((cutPort_suffix false _).trans (cutUser_suffix s))
/-- What is read behind the slashes of a scheme that is not for files: a host with its port, and the
path behind them. -/
def readHosted (scheme : Scheme) (s : List Char) : Except Error (Option Authority × Path) :=
  match readAuthority scheme (s.takeWhile fun c => !isSlash scheme c) with
  | .error e => .error e
  | .ok (found, rest) =>
    .ok (some found, readPath scheme (rest ++ s.dropWhile fun c => !isSlash scheme c))

theorem readHosted_reads {m : List Char} {a : Option Authority} {l : List (List Char)}
    (h : readHosted scheme m = .ok (a, .segments l)) : ∃ q, q <:+ m ∧ ReadFrom scheme q l := by
  unfold readHosted at h
  split at h
  · cases h
  · rename_i found rest hfound
    obtain ⟨-, hpath⟩ := Prod.mk.inj (Except.ok.inj h)
    obtain ⟨q, hq, hreads⟩ := readPath_reads hpath
    obtain ⟨t, ht⟩ := readAuthority_suffix hfound
    refine ⟨q, hq.trans ⟨t, ?_⟩, hreads⟩
    rw [← List.append_assoc, ht, List.takeWhile_append_dropWhile]

/-- **A slash behind a text that begins with a host closes the path.** -/
theorem closes_readHosted {m : List Char} (hlast : ¬ EndsInSlash scheme m)
    {a : Option Authority} {p' : Path} (h : readHosted scheme (m ++ ['/']) = .ok (a, p')) :
    ∃ p, readHosted scheme m = .ok (a, p) ∧ p.Closes p' := by
  obtain ⟨hhost, hafter⟩ := takeWhile_slash scheme m
  have hparts := List.takeWhile_append_dropWhile (p := fun c => !isSlash scheme c) (l := m)
  unfold readHosted at h ⊢
  rw [hhost, hafter] at h
  split at h
  · cases h
  · rename_i found rest hfound
    cases h
    refine ⟨_, rfl, ?_⟩
    rw [← List.append_assoc]
    refine closes_readPath (not_endsInSlash_append (fun c hc => ?_) fun h => ?_)
    · have hhost := List.mem_takeWhile_imp ((readAuthority_suffix hfound).subset hc)
      simpa using hhost
    · exact hlast (hparts ▸ h.append)

/-- A common scheme needs a host. -/
theorem readHosted_nil (hcommon : scheme.isCommon) : readHosted scheme [] = .error .emptyHost := by
  have hread : readAuthority scheme [] = .error .emptyHost := by
    simp [readAuthority, cutUser, cutPort, hcommon, bind, Except.bind, throw, throwThe,
      MonadExceptOf.throw]
  rw [readHosted, List.takeWhile_nil, hread]

/-! ## After the scheme -/

/-- What is read after a scheme whose URLs need no host. -/
def readLoose (scheme : Scheme) : List Char → Except Error (Option Authority × Path)
  | '/' :: '/' :: rest => readHosted scheme rest
  | '/' :: rest => .ok (none, .segments (readSegments scheme rest))
  | s => .ok (none, .flat (Percent.encode Percent.isControl s))

theorem readBody_eq (scheme : Scheme) (s : List Char) :
    readBody scheme s =
      if scheme.isFile then readFile scheme s
      else if scheme.isCommon then readHosted scheme (s.dropWhile (isSlash scheme))
      else readLoose scheme s := by
  have hhosted : ∀ s, (readAuthority scheme (s.takeWhile fun c => !isSlash scheme c)).bind
      (fun v => .ok (some v.1, readPath scheme (v.2 ++ s.dropWhile fun c => !isSlash scheme c))) =
        readHosted scheme s := by
    intro s
    unfold readHosted
    generalize readAuthority scheme _ = found
    cases found <;> rfl
  unfold readBody
  simp only [List.span_eq_takeWhile_dropWhile, bind, pure, Except.pure]
  split
  · rfl
  split
  · exact hhosted _
  fun_cases readLoose scheme s
  · exact hhosted _
  · simp only
  · simp only

theorem readBody_reads {m : List Char} {a : Option Authority} {l : List (List Char)}
    (h : readBody scheme m = .ok (a, .segments l)) : ∃ q, q <:+ m ∧ ReadFrom scheme q l := by
  rw [readBody_eq] at h
  split at h
  · exact readFile_reads h
  split at h
  · obtain ⟨q, hq, hreads⟩ := readHosted_reads h
    exact ⟨q, hq.trans (List.dropWhile_suffix _), hreads⟩
  unfold readLoose at h
  split at h
  · rename_i rest
    obtain ⟨q, hq, hreads⟩ := readHosted_reads h
    exact ⟨q, hq.trans (List.suffix_append ['/', '/'] rest), hreads⟩
  · rename_i rest _
    cases h
    exact ⟨rest, List.suffix_cons '/' rest, .segments rest⟩
  · cases h

theorem readLoose_rooted {c : Char} (hc : c ≠ '/') (rest : List Char) :
    readLoose scheme ('/' :: c :: rest) = .ok (none, .segments (readSegments scheme (c :: rest))) := by
  simp [readLoose, hc]

theorem readLoose_flat {c : Char} (hc : c ≠ '/') (rest : List Char) :
    readLoose scheme (c :: rest) = .ok (none, .flat (Percent.encode Percent.isControl (c :: rest))) := by
  simp [readLoose, hc]

theorem closes_readLoose {m : List Char} (hlast : ¬ EndsInSlash scheme m) {a : Option Authority}
    {l' : List (List Char)} (h : readLoose scheme (m ++ ['/']) = .ok (a, .segments l')) :
    ∃ p, readLoose scheme m = .ok (a, p) ∧ p.Closes (.segments l') := by
  cases m with
  | nil =>
    cases h
    exact ⟨_, rfl, readSegments_nil scheme ▸ rfl⟩
  | cons c m =>
    by_cases hc : c = '/'
    · subst hc
      cases m with
      | nil => exact absurd ⟨'/', rfl, isSlash_slash scheme⟩ hlast
      | cons d rest =>
        by_cases hd : d = '/'
        · subst hd
          exact closes_readHosted (fun h => hlast h.cons.cons) h
        · rw [List.cons_append, List.cons_append, readLoose_rooted hd] at h
          cases h
          exact ⟨_, readLoose_rooted hd rest,
            closes_readSegments (List.cons_ne_nil d rest) fun h => hlast h.cons⟩
    · rw [List.cons_append, readLoose_flat hc] at h
      cases h

/-- **A slash behind all that comes after the scheme closes the path** and changes nothing else. -/
theorem closes_readBody {m : List Char} (hlast : ¬ EndsInSlash scheme m) {a : Option Authority}
    {l' : List (List Char)} (h : readBody scheme (m ++ ['/']) = .ok (a, .segments l')) :
    ∃ p, readBody scheme m = .ok (a, p) ∧ p.Closes (.segments l') := by
  rw [readBody_eq] at h ⊢
  split at h
  · rename_i hfile
    rw [if_pos hfile]
    exact closes_readFile hfile hlast h
  rename_i hfile
  rw [if_neg hfile]
  split at h
  · rename_i hcommon
    rw [if_pos hcommon]
    have hparts := List.takeWhile_append_dropWhile (p := isSlash scheme) (l := m)
    rw [List.dropWhile_append] at h
    split at h
    · -- Nothing but slashes names no host.
      change readHosted scheme [] = _ at h
      rw [readHosted_nil hcommon] at h
      cases h
    · exact closes_readHosted (fun h => hlast (hparts ▸ h.append)) h
  · rename_i hcommon
    rw [if_neg hcommon]
    exact closes_readLoose hlast h

end UsageFeed.Url
