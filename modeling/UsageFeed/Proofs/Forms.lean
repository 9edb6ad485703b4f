import Mathlib.Data.List.TakeDrop
import UsageFeed.Proofs.Encoding
import UsageFeed.Proofs.Requests

/-!
# `UsageFeed.Proofs.Forms` — questions in a query

Names and values are written into a query as a form. Here the form is read again the way a server
reads it, and what is read is what was asked, whatever characters are in it.

## Contents
- **Reading.** `readPart`, `readPair` and `readForm`.
- **Parts.** `readPart_formEncode`, by way of what stands for one byte (`decode_formByte`).
- **Forms.** `isMark`, the signs that stand between parts and so in none; `readForm_form`.
- **Questions.** `Asks`, a request for the recommendations for an experiment, and `list_asks`.
-/

namespace UsageFeed

namespace Text.Utf8

theorem repairFrom_flatMap (read cs : List Char) :
    repairFrom read (cs.flatMap String.utf8EncodeChar) = read.reverse ++ cs := by
  induction cs generalizing read with
  | nil =>
    unfold repairFrom
    exact (List.append_nil _).symm
  | cons c cs ih =>
    have hnext : next ((c :: cs).flatMap String.utf8EncodeChar) = .char c _ :=
      next_eq_char_iff.mpr List.flatMap_cons
    unfold repairFrom
    split
    case h_2 c' rest hchar =>
      obtain ⟨rfl, rfl⟩ := Next.char.inj (hchar.symm.trans hnext)
      rw [ih, List.reverse_cons, List.append_assoc]
      rfl
    all_goals
      rename_i hother
      rw [hnext] at hother
      cases hother

/-- Nothing needs repair where a text was written. -/
theorem repair_encode (s : String) : repair (encode s) = s := by
  rw [repair, encode, repairFrom_flatMap]
  exact String.ofList_toList

end Text.Utf8

namespace Url.Percent

/-! ## Reading -/

/-- A plus sign stands for a blank. -/
def unplus (c : Char) : Char := if c = '+' then ' ' else c

/-- What a name or a value in a form stands for. -/
def readPart (s : List Char) : String :=
  Text.Utf8.repair (decode (Text.Utf8.encode (String.ofList (s.map unplus))))

/-- A name and its value stand before and behind the first equals sign. -/
def readPair (s : List Char) : String × String :=
  let (name, value) := s.span (· != '=')
  (readPart name, readPart value.tail)

/-- The names and values of a form, between which there are ampersands. -/
def readForm (s : List Char) : List (String × String) :=
  ((s.splitOn '&').filter fun part => !part.isEmpty).map readPair

/-! ## Parts -/

theorem decode_cons {a : UInt8} (h : a ≠ 0x25) (s : List UInt8) : decode (a :: s) = a :: decode s := by
  match s with
  | [] => rfl
  | [_] => rfl
  | _ :: _ :: _ => rw [decode, if_neg h]

theorem decode_escaped {h l : UInt8} {m n : UInt8} (hh : hexValue? h = some m)
    (hl : hexValue? l = some n) (s : List UInt8) :
    decode (0x25 :: h :: l :: s) = (m * 16 + n) :: decode s := by
  rw [decode, if_pos rfl, hh, hl]

/-- The bytes of what stands for a byte, once plus signs are blanks. -/
def formBytes (b : UInt8) : List UInt8 := ((formByte b).map unplus).flatMap String.utf8EncodeChar

theorem hexDigit_bytes {n : Nat} (h : n < 16) : unplus (hexDigit n) = hexDigit n ∧
    ∃ d, String.utf8EncodeChar (hexDigit n) = [d] ∧ hexValue? d = some (UInt8.ofNat n) := by
  have hall : ∀ n < 16, unplus (hexDigit n) = hexDigit n ∧
      String.utf8EncodeChar (hexDigit n) = [UInt8.ofNat (hexDigit n).toNat] ∧
      hexValue? (UInt8.ofNat (hexDigit n).toNat) = some (UInt8.ofNat n) := by decide
  obtain ⟨hplus, hencode, hvalue⟩ := hall n h
  exact ⟨hplus, _, hencode, hvalue⟩

theorem isFormPlain_bounds {b : UInt8} (h : isFormPlain b) : b.toNat < 0x80 ∧ b.toNat ≠ 0x25 ∧
    b.toNat ≠ 0x26 ∧ b.toNat ≠ 0x2B ∧ b.toNat ≠ 0x3D ∧ b.toNat ≠ 0x3F := by
  simp only [isFormPlain, Bool.or_eq_true, Bool.and_eq_true, decide_eq_true_eq, beq_iff_eq,
    UInt8.le_iff_toNat_le, ← UInt8.toNat_inj, UInt8.reduceToNat] at h
  omega

theorem toNat_plain {b : UInt8} (h : isFormPlain b) : (Char.ofNat b.toNat).toNat = b.toNat := by
  have hlow := (isFormPlain_bounds h).1
  rw [Char.ofNat, dif_pos (.inl (by omega))]
  rfl

theorem encode_plain {b : UInt8} (h : isFormPlain b) :
    String.utf8EncodeChar (Char.ofNat b.toNat) = [b] := by
  have hlow := (isFormPlain_bounds h).1
  rw [Text.Utf8.encodeChar_ofNat (.inl (by omega)), if_pos (by omega), UInt8.ofNat_toNat]

/-- What stands for a byte is read as the byte. -/
theorem decode_formByte (b : UInt8) (s : List UInt8) :
    decode (formBytes b ++ s) = b :: decode s := by
  unfold formBytes formByte
  split
  · rename_i hplain
    obtain ⟨-, hpercent, -, hplus, -⟩ := isFormPlain_bounds hplain
    have hself : unplus (Char.ofNat b.toNat) = Char.ofNat b.toNat :=
      if_neg fun heq => hplus ((toNat_plain hplain).symm.trans (congrArg Char.toNat heq))
    rw [List.map_singleton, hself, List.flatMap_singleton, encode_plain hplain]
    exact decode_cons (fun heq => hpercent (congrArg UInt8.toNat heq)) s
  split
  · rename_i hblank
    subst hblank
    exact decode_cons (by decide) s
  · have hsize := b.toNat_lt
    obtain ⟨hhigh, h, hh, hhvalue⟩ := hexDigit_bytes (by omega : b.toNat / 16 < 16)
    obtain ⟨hlow, l, hl, hlvalue⟩ := hexDigit_bytes (by omega : b.toNat % 16 < 16)
    have hbytes : ((escape b).map unplus).flatMap String.utf8EncodeChar = [0x25, h, l] := by
      simp only [escape, List.map_cons, List.map_nil, hhigh, hlow, List.flatMap_cons, hh, hl,
        List.flatMap_nil]
      rfl
    have hvalue : UInt8.ofNat (b.toNat / 16) * 16 + UInt8.ofNat (b.toNat % 16) = b := by
      rw [← UInt8.toNat_inj]
      simp only [UInt8.toNat_add, UInt8.toNat_mul, UInt8.toNat_ofNat', UInt8.reduceToNat]
      omega
    rw [hbytes]
    exact (decode_escaped hhvalue hlvalue s).trans (by rw [hvalue])

/-- **A part is read as the text that was written.** -/
theorem readPart_formEncode (s : String) : readPart (formEncode s).toList = s := by
  have hbytes : ∀ bytes : List UInt8,
      decode (((bytes.flatMap formByte).map unplus).flatMap String.utf8EncodeChar) = bytes := by
    intro bytes
    induction bytes with
    | nil => rfl
    | cons b bytes ih =>
      rw [List.flatMap_cons, List.map_append, List.flatMap_append]
      exact (decode_formByte b _).trans (congrArg _ ih)
  rw [readPart, formEncode, String.toList_ofList, Text.Utf8.encode, String.toList_ofList, hbytes,
    Text.Utf8.repair_encode]

/-! ## Forms -/

/-- The signs between the parts of a form, and the one before a query. -/
def isMark (c : Char) : Bool := c == '&' || c == '=' || c == '?'

theorem isMark_formByte {b : UInt8} {c : Char} (h : c ∈ formByte b) : isMark c = false := by
  have hdigit : ∀ n < 16, isMark (hexDigit n) = false := by decide
  unfold formByte at h
  split at h
  · rename_i hplain
    obtain ⟨-, -, hand, -, hequals, hquestion⟩ := isFormPlain_bounds hplain
    have htoNat := toNat_plain hplain
    rw [List.mem_singleton.mp h]
    simp only [isMark, Bool.or_eq_false_iff, beq_eq_false_iff_ne, ne_eq]
    refine ⟨⟨fun heq => hand ?_, fun heq => hequals ?_⟩, fun heq => hquestion ?_⟩
    all_goals exact htoNat.symm.trans (congrArg Char.toNat heq)
  split at h
  · rw [List.mem_singleton.mp h]
    rfl
  · have hsize := b.toNat_lt
    simp only [escape, List.mem_cons, List.not_mem_nil, or_false] at h
    rcases h with rfl | rfl | rfl
    · rfl
    · exact hdigit _ (by omega)
    · exact hdigit _ (by omega)

theorem isMark_formEncode {s : String} {c : Char} (h : c ∈ (formEncode s).toList) :
    isMark c = false := by
  rw [formEncode, String.toList_ofList] at h
  obtain ⟨b, -, hb⟩ := List.mem_flatMap.mp h
  exact isMark_formByte hb

/-- A name and a value with the sign between them. -/
def pairText (p : String × String) : List Char :=
  (formEncode p.1).toList ++ '=' :: (formEncode p.2).toList

theorem readPair_pairText (p : String × String) : readPair (pairText p) = p := by
  have hname : ∀ c ∈ (formEncode p.1).toList, (c != '=') = true := by
    intro c hc
    have hmark := isMark_formEncode hc
    simp only [isMark, Bool.or_eq_false_iff] at hmark
    exact bne_iff_ne.mpr (beq_eq_false_iff_ne.mp hmark.1.2)
  simp only [readPair, pairText, List.span_eq_takeWhile_dropWhile]
  rw [List.takeWhile_append_of_pos hname, List.dropWhile_append_of_pos hname,
    List.takeWhile_cons_of_neg (by decide), List.dropWhile_cons_of_neg (by decide), List.append_nil,
    List.tail_cons, readPart_formEncode, readPart_formEncode]

theorem mem_pairText {p : String × String} {c : Char} (h : c ∈ pairText p) :
    c ≠ '&' ∧ c ≠ '?' := by
  have hpart : ∀ {s : String}, c ∈ (formEncode s).toList → c ≠ '&' ∧ c ≠ '?' := by
    intro s hc
    have hmark := isMark_formEncode hc
    simp only [isMark, Bool.or_eq_false_iff, beq_eq_false_iff_ne] at hmark
    exact ⟨hmark.1.1, hmark.2⟩
  rcases List.mem_append.mp h with hc | hc
  · exact hpart hc
  · rcases List.mem_cons.mp hc with rfl | hc
    · exact ⟨by decide, by decide⟩
    · exact hpart hc

theorem toList_form (pairs : List (String × String)) :
    (form pairs).toList = ['&'].intercalate (pairs.map pairText) := by
  have hparts : ∀ p : String × String,
      (formEncode p.1 ++ "=" ++ formEncode p.2).toList = pairText p := by
    intro p
    rw [String.toList_append, String.toList_append, List.append_assoc]
    rfl
  rw [form, String.toList_intercalate, List.map_map]
  exact congrArg _ (List.map_congr_left fun p _ => hparts p)

/-- **A form is read as the names and values that were written.** -/
theorem readForm_form (pairs : List (String × String)) :
    readForm (form pairs).toList = pairs := by
  rw [readForm, toList_form]
  cases pairs with
  | nil => rfl
  | cons p pairs =>
    have hparts : ∀ part ∈ (p :: pairs).map pairText, '&' ∉ part := by
      intro part hpart hmem
      obtain ⟨p, -, rfl⟩ := List.mem_map.mp hpart
      exact (mem_pairText hmem).1 rfl
    have hfull : ∀ part ∈ (p :: pairs).map pairText, (!part.isEmpty) = true := by
      intro part hpart
      obtain ⟨p, -, rfl⟩ := List.mem_map.mp hpart
      simp [pairText]
    rw [List.splitOn_intercalate '&' hparts (by simp), List.filter_eq_self.mpr hfull, List.map_map]
    exact (List.map_congr_left fun p _ => readPair_pairText p).trans (List.map_id _)

theorem not_mem_intercalate {c d : Char} (hne : c ≠ d) {parts : List (List Char)}
    (h : ∀ part ∈ parts, c ∉ part) : c ∉ [d].intercalate parts := by
  induction parts with
  | nil => exact List.not_mem_nil
  | cons part parts ih =>
    obtain ⟨hpart, hparts⟩ := List.forall_mem_cons.mp h
    cases parts with
    | nil => rwa [List.intercalate_singleton]
    | cons _ _ =>
      rw [List.intercalate_cons_cons, List.mem_append, List.mem_append, List.mem_singleton]
      exact not_or.mpr ⟨not_or.mpr ⟨hpart, hne⟩, ih hparts⟩

/-- No question mark stands in a form. -/
theorem not_mem_form (pairs : List (String × String)) : '?' ∉ (form pairs).toList := by
  rw [toList_form]
  refine not_mem_intercalate (by decide) fun part hpart hmem => ?_
  obtain ⟨p, -, rfl⟩ := List.mem_map.mp hpart
  exact (mem_pairText hmem).2 rfl

end Url.Percent

/-! ## Questions -/

/-- The query of a target is what stands behind its last question mark, if there is none in it. -/
theorem query_of_target {u u' : Url} {q q' : List Char} (hu : u.query = some q)
    (hu' : u'.query = some q') (hq : '?' ∉ q) (hq' : '?' ∉ q') (h : u.target = u'.target) :
    q = q' := by
  have hlast : ∀ {p q : List Char}, '?' ∉ q →
      (p ++ '?' :: q).reverse.takeWhile (· != '?') = q.reverse := by
    intro p q hq
    have hall : ∀ c ∈ q.reverse, (c != '?') = true := fun c hc =>
      bne_iff_ne.mpr fun heq => hq (heq ▸ List.mem_reverse.mp hc)
    rw [List.reverse_append, List.reverse_cons, List.append_assoc,
      List.takeWhile_append_of_pos hall, List.singleton_append,
      List.takeWhile_cons_of_neg (by decide), List.append_nil]
  have hlist : u.path.write ++ '?' :: q = u'.path.write ++ '?' :: q' := by
    rw [Url.target, Url.target, hu, hu'] at h
    exact String.ofList_injective h
  rw [← List.reverse_inj, ← hlast hq, hlist, hlast hq']

namespace Service

/-- A request asks for the recommendations for an experiment: a server that reads its query finds
the names of the experiment. -/
structure Asks (r : Http.Request) (e : Experiment) : Prop where
  method : r.method = .get
  document : r.document = none
  query : ∃ q, r.url.query = some q ∧ Url.Percent.readForm q =
    [("experiment_name", e.name), ("deployment_name", e.deployment), ("namespace", e.ns)]
  /-- Nothing in the query can be taken for what is before it. -/
  mark : ∀ q ∈ r.url.query, '?' ∉ q

theorem requestTo_list_url {u : Url} (h : u.hasHost) (e : Experiment) :
    (Client.requestTo u (.list (.of e))).url =
      { u with query := some (Url.Percent.form (ListQuery.of e).parameters).toList } := by
  simp only [Client.requestTo, Http.withQuery]
  rw [if_neg (by simp [h, ListQuery.parameters])]

theorem asks_requestTo {u : Url} (h : u.hasHost) (e : Experiment) :
    Asks (Client.requestTo u (.list (.of e))) e := by
  have hquery := congrArg Url.query (requestTo_list_url h e)
  refine ⟨rfl, rfl, ⟨_, hquery, Url.Percent.readForm_form _⟩, fun q hq => ?_⟩
  rw [hquery] at hq
  obtain rfl := Option.some.inj hq
  exact Url.Percent.not_mem_form _

/-- Clearing a request leaves the question as it is. -/
theorem Asks.withUser {r : Http.Request} {e : Experiment} (h : Asks r e) : Asks r.withUser e := by
  obtain ⟨hmethod, hdocument, hquery, -⟩ := r.withUser_keeps
  exact ⟨hmethod.trans h.method, hdocument.trans h.document, hquery ▸ h.query, hquery ▸ h.mark⟩

theorem asks_of_mem_sent {k : Client} {e : Experiment} {r : Http.Request}
    (h : r ∈ k.sent (.list (.of e))) : Asks r e := by
  obtain ⟨u, -, hcleared⟩ := Client.mem_sent h
  obtain ⟨⟨-, hhost, -⟩, rfl⟩ := Http.Request.cleared_eq_ok_iff.mp hcleared
  rw [(Client.requestTo_keeps u _).2] at hhost
  exact (asks_requestTo hhost e).withUser

/-- Requests that name the same target ask for the same experiment. -/
theorem Asks.unique {r r' : Http.Request} {e e' : Experiment} (h : Asks r e) (h' : Asks r' e')
    (htarget : r.url.target = r'.url.target) : e = e' := by
  obtain ⟨q, hq, hread⟩ := h.query
  obtain ⟨q', hq', hread'⟩ := h'.query
  have hsame : q = q' := query_of_target hq hq' (h.mark q hq) (h'.mark q' hq') htarget
  rw [hsame, hread'] at hread
  obtain ⟨name, ns, deployment⟩ := e
  obtain ⟨name', ns', deployment'⟩ := e'
  simp only [List.cons.injEq, Prod.mk.injEq, true_and, and_true] at hread
  obtain ⟨rfl, rfl, rfl⟩ := hread
  rfl

/-- **Questions are faithful.** Wherever there is an endpoint with a host, the request asks for just
the experiment; so does whatever is sent, and no two experiments are asked for by one target. -/
theorem list_asks (k : Client) (e : Experiment) :
    (∀ u, k.endpoint .listRecommendations = .ok u → u.hasHost →
      ∃ r q, k.request (.list (.of e)) = .ok r ∧ r.url = { u with query := some q } ∧ Asks r e) ∧
    (∀ r ∈ k.sent (.list (.of e)), Asks r e) ∧
    ∀ (k' : Client) (e' : Experiment), ∀ r ∈ k.sent (.list (.of e)),
      ∀ r' ∈ k'.sent (.list (.of e')), r.url.target = r'.url.target → e = e' := by
  refine ⟨fun u hu hhost => ?_, fun r hr => asks_of_mem_sent hr, fun k' e' r hr r' hr' =>
    (asks_of_mem_sent hr).unique (asks_of_mem_sent hr')⟩
  have hasks := asks_requestTo hhost e
  refine ⟨_, _, ?_, requestTo_list_url hhost e, hasks⟩
  rw [Client.request, Call.operation, hu]
  rfl

/-- A question with signs that a query sets apart, with a control character and with signs of two
and three bytes. -/
theorem list_asks_signs :
    let k : Client := ⟨{
      scheme := ⟨"http"⟩
      authority := some { host := some (.ipv6 [0, 0, 0, 0, 0, 0, 0, 1]), port := some 8080 }
      path := .segments [[]] }⟩
    let e : Experiment := ⟨"a&b=c+%26", "# ?", "é\n☃"⟩
    ∃ r ∈ k.sent (.list (.of e)), Asks r e ∧
      (∃ sent q, k.request (.list (.of e)) = .ok sent ∧ sent.url.query = some q ∧ Asks sent e) ∧
      r.url.target = "/listRecommendations?experiment_name=a%26b%3Dc%2B%2526" ++
        "&deployment_name=%C3%A9%0A%E2%98%83&namespace=%23+%3F" := by
  intro k e
  have hsent : (k.sent (.list (.of e))).map (·.url.target) =
      ["/listRecommendations?experiment_name=a%26b%3Dc%2B%2526" ++
        "&deployment_name=%C3%A9%0A%E2%98%83&namespace=%23+%3F"] := by decide +kernel
  obtain ⟨hendpoint, hmem, -⟩ := list_asks k e
  obtain ⟨r, hr, htarget⟩ : ∃ r ∈ k.sent (.list (.of e)), r.url.target = _ :=
    List.mem_map.mp (hsent ▸ List.mem_singleton_self _)
  obtain ⟨sent, q, hrequest, hurl, hasks⟩ := hendpoint _ rfl (by decide +kernel)
  exact ⟨r, hr, hmem r hr, ⟨sent, q, hrequest, hurl ▸ rfl, hasks⟩, htarget⟩

end Service
end UsageFeed
