import UsageFeed.Proofs.UrlTexts
import UsageFeed.Service.Client

/-!
# `UsageFeed.Proofs.Endpoints` — where calls to the service go

A client puts a slash behind the text of the service's URL before it reads it, so that a name that
takes the place of the path's last segment goes beneath the path. The slash closes the path only
where the path is what the text ends in.

## Contents
- **Names beneath segments.** `writeSegments_beneath` and `writeSegments_replaced`, the text of a path
  whose last segment gives way to a name; `opened_eq_closed_iff`, where the two agree.
- **Texts with a slash.** `clean_slashed` and `clean_prefix_slashed`, what counts of such a text.
- **Endpoints.** `Extends`, the endpoint that is meant; `LiesBeneath`, the one that is found, and
  `endpoint_liesBeneath`; `endpoint_loses_segment`, where the two differ.
-/

namespace UsageFeed

open Service

namespace Url

variable {scheme : Scheme} {l : List (List Char)}

/-! ## Names beneath segments -/

/-- The segments are those of a file and end in a drive, which nothing replaces. -/
def EndsInDrive (scheme : Scheme) (l : List (List Char)) : Prop :=
  scheme.isFile ∧ ∃ d ∈ l.getLast?, isDrive d

theorem replaceLast_eq (h : ¬ EndsInDrive scheme l) (name : List Char) :
    Path.replaceLast scheme l name = l.dropLast ++ [name] := by
  unfold Path.replaceLast
  split
  · rename_i d hd
    rw [if_neg]
    intro hdrive
    obtain ⟨hfile, hd'⟩ := Bool.and_eq_true_iff.mp hdrive
    exact h ⟨hfile, d, hd, hd'⟩
  · rename_i hnone
    rw [List.getLast?_eq_none_iff.mp hnone]
    rfl

theorem EndsOpen.not_endsInDrive (h : EndsOpen l) : ¬ EndsInDrive scheme l := by
  rintro ⟨-, d, hd, hdrive⟩
  have hempty : d = [] := by
    rw [EndsOpen, hd] at h
    exact h
  rw [hempty] at hdrive
  cases hdrive

/-- A name beneath segments with nothing behind the last slash stands behind that slash. -/
theorem writeSegments_beneath (h : EndsOpen l) (name : List Char) :
    Path.writeSegments (Path.replaceLast scheme l name) = closed (Path.writeSegments l) ++ name := by
  rw [replaceLast_eq h.not_endsInDrive, writeSegments_concat]
  induction l using List.reverseRecOn with
  | nil => rfl
  | append_singleton l s _ =>
    have hs : s = [] := by
      rw [EndsOpen, List.getLast?_concat] at h
      exact h
    rw [hs, List.dropLast_concat, writeSegments_concat, closed_concat List.not_mem_nil, if_pos rfl,
      List.append_assoc, List.singleton_append]

/-- A name in the place of the last segment stands behind the last slash. -/
theorem writeSegments_replaced (hfree : SlashFree l) (h : ¬ EndsInDrive scheme l)
    (name : List Char) :
    Path.writeSegments (Path.replaceLast scheme l name) = opened (Path.writeSegments l) ++ name := by
  rw [replaceLast_eq h, writeSegments_concat]
  induction l using List.reverseRecOn with
  | nil => rfl
  | append_singleton l s _ =>
    rw [List.dropLast_concat, writeSegments_concat, opened_concat (hfree s (by simp)),
      List.append_assoc, List.singleton_append]

/-- The part of a path up to its last slash is all of it just if it ends in one. -/
theorem opened_eq_closed_iff (path : List Char) :
    opened path = closed path ↔ path = [] ∨ path.getLast? = some '/' := by
  constructor
  · intro h
    by_contra hne
    obtain ⟨hnil, hlast⟩ := not_or.mp hne
    have hshort := (List.dropWhile_suffix (l := path.reverse) (· != '/')).length_le
    have hlength := congrArg List.length h
    rw [closed, if_neg hlast, opened, if_neg hnil] at hlength
    simp only [List.length_reverse, List.length_append, List.length_singleton] at hshort hlength
    omega
  · rintro (rfl | hlast)
    · rfl
    · obtain ⟨q, rfl⟩ := List.getLast?_eq_some_iff.mp hlast
      rw [opened_concat List.not_mem_nil, closed, if_pos hlast]

/-- The URL with a name in the place of the last of its segments, which is what an endpoint is. -/
def renamed (u : Url) (l : List (List Char)) (name : String) : Url :=
  { u with path := .segments (Path.replaceLast u.scheme l name.toList), query := none,
           fragment := none }

end Url

namespace Service

/-! ## Texts with a slash -/

theorem slashed_cases (s : String) :
    (s.toList.getLast? = some '/' ∧ slashed s = s) ∨
      (s.toList.getLast? ≠ some '/' ∧ (slashed s).toList = s.toList ++ ['/']) := by
  have hends : s.endsWith "/" ↔ s.toList.getLast? = some '/' := by
    rw [String.endsWith, String.Slice.endsWith_string_iff, String.copy_toSlice,
      List.getLast?_eq_some_iff]
    exact ⟨fun ⟨q, hq⟩ => ⟨q, hq.symm⟩, fun ⟨q, hq⟩ => ⟨q, hq.symm⟩⟩
  unfold slashed
  split
  · rename_i h
    exact .inl ⟨hends.mp h, rfl⟩
  · rename_i h
    exact .inr ⟨fun hlast => h (hends.mpr hlast), String.toList_append⟩

theorem not_hasTail_slashed {s : String} (h : ¬ Url.HasTail s) : ¬ Url.HasTail (slashed s) := by
  rcases slashed_cases s with ⟨-, heq⟩ | ⟨-, hlist⟩
  · rwa [heq]
  · simpa [Url.HasTail, hlist] using h

theorem clean_slashed (s : String) : ∃ k, Url.clean (slashed s) = k ++ ['/'] := by
  rcases slashed_cases s with ⟨hlast, heq⟩ | ⟨-, hlist⟩
  · obtain ⟨q, hq⟩ := List.getLast?_eq_some_iff.mp hlast
    rw [heq]
    exact ⟨_, Url.clean_concat (s := String.ofList q) (by rw [hq, String.toList_ofList])⟩
  · exact ⟨_, Url.clean_concat hlist⟩

theorem clean_prefix_slashed (s : String) : Url.clean s <+: Url.clean (slashed s) := by
  rcases slashed_cases s with ⟨-, heq⟩ | ⟨-, hlist⟩
  · simp only [heq]
    exact List.prefix_rfl
  · rw [Url.clean_concat hlist, Url.clean_eq]
    exact (Url.trimBy_isPrefix Url.isEdge (Url.kept s)).trans (List.prefix_append _ _)

/-! ## Endpoints -/

/-- A URL is that of a name beneath another: on the same host, and with the name behind the path
and one slash. -/
structure Extends (u : Url) (name : String) (e : Url) : Prop where
  scheme : e.scheme = u.scheme
  authority : e.authority = u.authority
  path : e.path.write = Url.closed u.path.write ++ name.toList

/-- The text ends where its path does: in a slash, or in what is neither cut off nor read as one. -/
def EndsInPath (scheme : Url.Scheme) (s : String) : Prop :=
  s.toList.getLast? = some '/' ∨
    ∀ c ∈ (Url.kept s).getLast?, ¬ Url.isEdge c ∧ ¬ Url.isSlash scheme c

/-- Where an endpoint of a client lies that is made from a text. -/
structure LiesBeneath (s : String) (k : Client) (name : String) (e : Url) : Prop where
  /-- An endpoint has no query and no fragment. -/
  bare : e.query = none ∧ e.fragment = none
  /-- Where the text has neither, the endpoint extends the URL that the client keeps, -/
  kept : ¬ Url.HasTail s → Extends k.base name e
  /-- and that of the text. -/
  named : ¬ Url.HasTail s → EndsInPath k.base.scheme s → ∃ u, Url.read s = .ok u ∧ Extends u name e
  /-- Where it has either, the name takes the place of the last segment, and the endpoint extends the
  URL of the text just if its path ended in a slash anyway. -/
  replaced : Url.HasTail s → ∃ u l, Url.read s = .ok u ∧ u.path = .segments l ∧
    e.scheme = u.scheme ∧ e.authority = u.authority ∧
    (¬ Url.EndsInDrive u.scheme l →
      e.path.write = Url.opened u.path.write ++ name.toList ∧
      (Extends u name e ↔ u.path.write = [] ∨ u.path.write.getLast? = some '/'))

theorem ofText_eq_ok {s : String} {k : Client} :
    Client.ofText s = .ok k ↔ Url.read (slashed s) = .ok k.base := by
  unfold Client.ofText
  constructor
  · intro h
    split at h
    · rename_i base hbase
      cases h
      exact hbase
    · cases h
  · intro h
    rw [h]

variable {k : Client} {op : Operation}

theorem endpoint_flat {t : List Char} (h : k.base.path = .flat t) :
    k.endpoint op = .error (.url .relativeToFlat) := by
  rw [Client.endpoint, Url.endpoint, h]

theorem endpoint_segments {l : List (List Char)} (h : k.base.path = .segments l) :
    k.endpoint op = .ok (k.base.renamed l op.name) := by
  rw [Client.endpoint, Url.endpoint, h]
  rfl

/-- A name beneath segments with nothing behind the last slash extends the URL. -/
theorem extends_renamed {u : Url} {l : List (List Char)} (h : u.path = .segments l)
    (hopen : Url.EndsOpen l) (name : String) : Extends u name (u.renamed l name) where
  scheme := rfl
  authority := rfl
  path := by
    rw [h]
    exact Url.writeSegments_beneath hopen name.toList

theorem Extends.of_closes {u u' e : Url} {name : String} (h : Extends u' name e)
    (hscheme : u.scheme = u'.scheme) (hauthority : u.authority = u'.authority)
    (hpath : u.path.Closes u'.path) : Extends u name e where
  scheme := h.scheme.trans hscheme.symm
  authority := h.authority.trans hauthority.symm
  path := by rw [h.path, hpath, Url.closed_closed]

/-- Without a query and a fragment the slash closes the path that the client keeps. -/
theorem extends_base {s : String} (h : Client.ofText s = .ok k) (htail : ¬ Url.HasTail s)
    {l : List (List Char)} (hl : k.base.path = .segments l) (name : String) :
    Extends k.base name (k.base.renamed l name) := by
  obtain ⟨front, hslash⟩ := clean_slashed s
  exact extends_renamed hl
    (Url.read_endsOpen (ofText_eq_ok.mp h) (not_hasTail_slashed htail) hslash hl) name

/-- What extends the URL that the client keeps extends that of the text, where the text ends in its
path. -/
theorem extends_text {s : String} (h : Client.ofText s = .ok k) (htail : ¬ Url.HasTail s)
    (hends : EndsInPath k.base.scheme s) {l : List (List Char)} (hl : k.base.path = .segments l)
    {name : String} {e : Url} (hkept : Extends k.base name e) :
    ∃ u, Url.read s = .ok u ∧ Extends u name e := by
  have hbase := ofText_eq_ok.mp h
  rcases slashed_cases s with ⟨-, heq⟩ | ⟨hnot, hlist⟩
  · exact ⟨k.base, heq ▸ hbase, hkept⟩
  · have hlast := hends.resolve_left hnot
    obtain ⟨hclean, hsame⟩ := Url.clean_concat_of_getLast? hlist fun c hc => (hlast c hc).1
    have hnoslash : ¬ Url.EndsInSlash k.base.scheme (Url.clean s) := by
      rintro ⟨c, hc, hslash⟩
      exact (hlast c (hsame ▸ hc)).2 hslash
    obtain ⟨u, hu, hscheme, hauthority, hcloses⟩ :=
      Url.read_closes hbase htail hclean hnoslash hl
    exact ⟨u, hu, hkept.of_closes hscheme hauthority hcloses⟩

/-- A name in the place of the last segment extends the URL just if nothing stood there. -/
theorem renamed_extends_iff {u e : Url} {name : String} (hscheme : e.scheme = u.scheme)
    (hauthority : e.authority = u.authority)
    (hpath : e.path.write = Url.opened u.path.write ++ name.toList) :
    Extends u name e ↔ u.path.write = [] ∨ u.path.write.getLast? = some '/' := by
  rw [← Url.opened_eq_closed_iff]
  constructor
  · intro hextends
    exact List.append_cancel_right (hpath.symm.trans hextends.path)
  · intro heq
    exact ⟨hscheme, hauthority, heq ▸ hpath⟩

/-- **Where endpoints lie.** A client whose URL has a flat path has no endpoint. Any other has one
for each operation: it extends the URL, unless that has a query or a fragment, where the last
segment of the path is lost. -/
theorem endpoint_liesBeneath {s : String} {k : Client} (h : Client.ofText s = .ok k)
    (op : Operation) :
    (∀ t, k.base.path = .flat t → k.endpoint op = .error (.url .relativeToFlat)) ∧
      ∀ l, k.base.path = .segments l → ∃ e, k.endpoint op = .ok e ∧ LiesBeneath s k op.name e := by
  refine ⟨fun t => endpoint_flat, fun l hl => ⟨_, endpoint_segments hl, ?_⟩⟩
  have hbase := ofText_eq_ok.mp h
  refine ⟨⟨rfl, rfl⟩, fun htail => extends_base h htail hl op.name,
    fun htail hends => extends_text h htail hends hl (extends_base h htail hl op.name),
    fun htail => ?_⟩
  -- Behind a query or a fragment the slash changes nothing, and the client keeps the path of `s`.
  obtain ⟨u, hu, hscheme, hauthority, hpath⟩ :=
    Url.read_tail hbase htail (clean_prefix_slashed s)
  rw [hl] at hpath
  refine ⟨u, l, hu, hpath, hscheme.symm, hauthority.symm, fun hdrive => ?_⟩
  have hwritten : (k.base.renamed l op.name).path.write =
      Url.opened u.path.write ++ op.name.toList := by
    rw [hpath]
    exact Url.writeSegments_replaced (Url.read_slashFree hbase hl) (hscheme ▸ hdrive) _
  exact ⟨hwritten, renamed_extends_iff hscheme.symm hauthority.symm hwritten⟩

/-- The endpoint beneath a path. -/
theorem endpoint_liesBeneath_kruize :
    ∃ k e u, Client.ofText "http://[::1]:8080/kruize" = .ok k ∧
      k.endpoint .createExperiment = .ok e ∧ Url.read "http://[::1]:8080/kruize" = .ok u ∧
      u.path.write = "/kruize".toList ∧ Extends u "createExperiment" e := by
  have h : Client.ofText "http://[::1]:8080/kruize" = .ok ⟨{
      scheme := ⟨"http"⟩
      authority := some { host := some (.ipv6 [0, 0, 0, 0, 0, 0, 0, 1]), port := some 8080 }
      path := .segments ["kruize".toList, []] }⟩ := ofText_eq_ok.mpr (by decide +kernel)
  have htext : Url.read "http://[::1]:8080/kruize" = .ok {
      scheme := ⟨"http"⟩
      authority := some { host := some (.ipv6 [0, 0, 0, 0, 0, 0, 0, 1]), port := some 8080 }
      path := .segments ["kruize".toList] } := by decide +kernel
  obtain ⟨e, he, hlies⟩ := (endpoint_liesBeneath h .createExperiment).2 _ rfl
  have hlast : (Url.kept "http://[::1]:8080/kruize").getLast? = some 'e' := by decide +kernel
  obtain ⟨u, hu, hextends⟩ := hlies.named (by decide +kernel) <| .inr fun c hc => by
    obtain rfl : 'e' = c := Option.some.inj (hlast.symm.trans hc)
    exact ⟨by decide, by decide⟩
  obtain rfl := Except.ok.inj (htext.symm.trans hu)
  exact ⟨_, e, _, h, he, htext, rfl, hextends⟩

/-- Behind a query the slash closes no path, and the last segment gives way to the name. -/
theorem endpoint_loses_segment :
    ∃ k u e, Client.ofText "http://[::1]:8080/kruize?zone=1" = .ok k ∧
      Url.read "http://[::1]:8080/kruize?zone=1" = .ok u ∧
      u.path.write = "/kruize".toList ∧ k.endpoint .createExperiment = .ok e ∧
      e.path.write = "/createExperiment".toList ∧ ¬ Extends u "createExperiment" e := by
  refine ⟨⟨{
      scheme := ⟨"http"⟩
      authority := some { host := some (.ipv6 [0, 0, 0, 0, 0, 0, 0, 1]), port := some 8080 }
      path := .segments ["kruize".toList]
      query := some "zone=1/".toList }⟩, {
      scheme := ⟨"http"⟩
      authority := some { host := some (.ipv6 [0, 0, 0, 0, 0, 0, 0, 1]), port := some 8080 }
      path := .segments ["kruize".toList]
      query := some "zone=1".toList }, {
      scheme := ⟨"http"⟩
      authority := some { host := some (.ipv6 [0, 0, 0, 0, 0, 0, 0, 1]), port := some 8080 }
      path := .segments ["createExperiment".toList] }, ?_, ?_, ?_, ?_, ?_, ?_⟩
  · exact ofText_eq_ok.mpr (by decide +kernel)
  · decide +kernel
  · rfl
  · exact endpoint_segments (show _ = Url.Path.segments ["kruize".toList] from rfl)
  · rfl
  · intro h
    exact absurd h.path (by decide)

end Service
end UsageFeed
