import UsageFeed.Event
import UsageFeed.Proofs.JsonPresentations

/-!
# `UsageFeed.Proofs.EventTexts` — an event is read from any text that presents it

Those who send events may write their members in any order, leave out what is not there or set it to
null, and add members of their own, in the event and in its metadata.

## Contents
- **Presenting.** `Event.known` and `Event.Metadata.known`, what an event and its metadata have to
  say; `Event.PresentedBy`, the texts that say it.
- **Reading.** `Event.seen` and `Event.Metadata.seen`, how far they are read once some names have
  been seen; `decode_presented`.
-/

namespace UsageFeed.Event

open Json (Known QuotedAs OptionOf ListOf RecordOf IsBlank ReadsAs SpellsText Valid
  answers_defaulted readsAs_text readsAs_list readsAs_record)

/-! ## Presenting -/

/-- What is known of an event's metadata: three texts, each of which may be lacking. -/
def Metadata.known (m : Metadata) : List Known :=
  [⟨"org_id", OptionOf QuotedAs m.orgId, m.orgId = none⟩,
    ⟨"account", OptionOf QuotedAs m.account, m.account = none⟩,
    ⟨"cluster_id", OptionOf QuotedAs m.clusterId, m.clusterId = none⟩]

/-- What is known of an event. A list of files may be left out if it is empty, but it is not null. -/
def known (e : Event) : List Known :=
  [⟨"request_id", OptionOf QuotedAs e.requestId, e.requestId = none⟩,
    ⟨"b64_identity", OptionOf QuotedAs e.identity, e.identity = none⟩,
    ⟨"metadata", OptionOf (fun m => RecordOf m.known) e.metadata, e.metadata = none⟩,
    ⟨"files", ListOf QuotedAs e.files, e.files = []⟩]

/-- A text presents an event: it is an object that does, with white space around it. -/
def PresentedBy (e : Event) (text : String) : Prop :=
  ∃ ws cs ws', IsBlank ws ∧ RecordOf e.known cs ∧ IsBlank ws' ∧ text.toList = ws ++ (cs ++ ws')

/-! ## Reading -/

/-- The metadata as far as they are read once some names have been seen. -/
def Metadata.seen (m : Metadata) (names : List String) : Metadata where
  orgId := if "org_id" ∈ names then m.orgId else none
  account := if "account" ∈ names then m.account else none
  clusterId := if "cluster_id" ∈ names then m.clusterId else none

/-- The event as far as it is read once some names have been seen. -/
def seen (e : Event) (names : List String) : Event where
  requestId := if "request_id" ∈ names then e.requestId else none
  identity := if "b64_identity" ∈ names then e.identity else none
  metadata := if "metadata" ∈ names then e.metadata else none
  files := if "files" ∈ names then e.files else []

theorem readsAs_optionalText {o : Option String} {cs : List Char} (h : OptionOf QuotedAs o cs) :
    ReadsAs 0 (Json.Decoder.option .text) cs o :=
  ReadsAs.option (fun _ _ _ h => ⟨readsAs_text h, h.begins⟩) h

/-- What may be left out is nothing, so a value that is there once its name has been seen is there
in any case. -/
theorem ite_seen {α : Type} {none a : α} {name : String} {names : List String}
    (h : name ∈ names ∨ a = none) : (if name ∈ names then a else none) = a := by
  rcases h with h | rfl
  · exact if_pos h
  · exact ite_self a

theorem Metadata.answers (m : Metadata) : Metadata.shape.Answers 0 m.seen m.known where
  names := rfl
  start := rfl
  fields := by
    simp only [Metadata.shape, List.forall_mem_cons]
    refine ⟨⟨_, .head _, answers_defaulted (fun _ => readsAs_optionalText) ?_⟩,
      ⟨_, .tail _ (.head _), answers_defaulted (fun _ => readsAs_optionalText) ?_⟩,
      ⟨_, .tail _ (.tail _ (.head _)), answers_defaulted (fun _ => readsAs_optionalText) ?_⟩, nofun⟩
    all_goals
      intro names _
      simp [Metadata.seen]

theorem Metadata.readsAs (m : Metadata) {cs : List Char} (h : RecordOf m.known cs) :
    ReadsAs 1 Metadata.shape.decode cs m := by
  refine readsAs_record m.answers (fun names hall => ?_) h
  simp only [known, List.forall_mem_cons] at hall
  obtain ⟨horg, haccount, hcluster, -⟩ := hall
  unfold Metadata.seen
  rw [ite_seen horg, ite_seen haccount, ite_seen hcluster]

theorem readsAs_metadata {o : Option Metadata} {cs : List Char}
    (h : OptionOf (fun m => RecordOf m.known) o cs) :
    ReadsAs 1 (Json.Decoder.option Metadata.shape.decode) cs o :=
  ReadsAs.option (fun m _ _ h => ⟨m.readsAs h, h.begins⟩) h

theorem answers (e : Event) : shape.Answers 1 e.seen e.known where
  names := rfl
  start := rfl
  fields := by
    have htext : ∀ (o : Option String) (cs : List Char), OptionOf QuotedAs o cs →
        ReadsAs 1 (Json.Decoder.option .text) cs o := fun _ _ h =>
      (readsAs_optionalText h).mono (Nat.zero_le 1)
    have hfiles : ∀ cs, ListOf QuotedAs e.files cs → ReadsAs 1 (.list .text) cs e.files :=
      fun _ => readsAs_list fun _ _ h => ⟨readsAs_text h, h.begins⟩
    simp only [shape, List.forall_mem_cons]
    refine ⟨⟨_, .head _, answers_defaulted (htext _) ?_⟩,
      ⟨_, .tail _ (.head _), answers_defaulted (htext _) ?_⟩,
      ⟨_, .tail _ (.tail _ (.head _)), answers_defaulted (fun _ => readsAs_metadata) ?_⟩,
      ⟨_, .tail _ (.tail _ (.tail _ (.head _))), answers_defaulted hfiles ?_⟩, nofun⟩
    all_goals
      intro names _
      simp [seen]

theorem readsAs (e : Event) {cs : List Char} (h : RecordOf e.known cs) :
    ReadsAs 2 shape.decode cs e := by
  refine readsAs_record e.answers (fun names hall => ?_) h
  simp only [known, List.forall_mem_cons] at hall
  obtain ⟨hrequest, hidentity, hmetadata, hfiles, -⟩ := hall
  unfold seen
  rw [ite_seen hrequest, ite_seen hidentity, ite_seen hmetadata, ite_seen hfiles]

/-- **An event is read from any text that presents it.** -/
theorem decode_presented {e : Event} {text : String} (h : e.PresentedBy text) :
    decode (Text.Utf8.encode text) = .ok e := by
  obtain ⟨ws, cs, ws', hbefore, hrecord, hafter, htext⟩ := h
  have hbytes : Text.Utf8.encode text = Json.bytes (ws ++ (cs ++ ws')) := by
    unfold Text.Utf8.encode
    rw [htext]
    rfl
  have hrun : Json.Decoder.run shape.decode (Text.Utf8.encode text) = .ok e := by
    rw [hbytes]
    exact (e.readsAs hrecord).run (by decide) hbefore hafter
  unfold decode
  rw [hrun]
  rfl

/-- An event of a request and a cluster. -/
def smiling : Event where
  requestId := some "😀"
  metadata := some { clusterId := some "c" }

/-- A text that presents it: the request comes last, by another spelling of its name, and between
are values that no document could keep. -/
def smilingText : String :=
  "\x7b\"x\": [1E+999, \x7b\"\\ud800\":true\x7d],\"metadata\":\x7b\"org_id\":null ," ++
    "\"cluster_id\":\"c\"\x7d,\t\"\\u0072equest_id\":\"\\ud83D\\ude00\"\x7d\n"

theorem decode_presented_smiling :
    smiling.PresentedBy smilingText ∧ decode (Text.Utf8.encode smilingText) = .ok smiling := by
  have hnone : IsBlank [] := nofun
  have hspace : IsBlank [' '] := by simp [IsBlank]
  have htab : IsBlank ['\t'] := by simp [IsBlank]
  have hline : IsBlank ['\n'] := by simp [IsBlank]
  have hdigit : ∀ d < 16, Json.HexDigit d d.digitChar := fun d hd => ⟨hd, .inl rfl⟩
  have hcapital : Json.HexDigit 13 'D' := ⟨by decide, .inr rfl⟩
  have hplain : ∀ t : String, (∀ c ∈ t.toList, c ≠ '"' ∧ c ≠ '\\' ∧ 0x20 ≤ c.toNat) →
      SpellsText t.toList t.toList := fun _ => Json.spellsText_self
  -- the value under a name that is not known
  have hnumeral : Json.Numeral ([] ++ (['1'] ++ ([] ++ 'E' :: (['+'] ++ ['9', '9', '9'])))) :=
    .parts (.inl rfl) (.digits (by decide) (by decide) nofun) .none
      (.mark (.inr rfl) (.inr (.inl rfl)) ⟨by decide, by simp⟩)
  have hlone := Json.Hex.digits (hdigit 13 (by decide)) (hdigit 8 (by decide))
    (hdigit 0 (by decide)) (hdigit 0 (by decide))
  have hobject : Valid .value "\x7b\"\\ud800\":true\x7d".toList :=
    .object (.lastMember (.member hnone (.code hlone .nil) hnone
      (.element hnone (.word (by decide : ['t', 'r', 'u', 'e'] ∈ Json.fixedWords)) hnone)))
  have hlist : Valid .value "[1E+999, \x7b\"\\ud800\":true\x7d]".toList :=
    .list (.moreElements (.element hnone (.number hnumeral) hnone)
      (.lastElement (.element hspace hobject hnone)))
  -- the metadata
  have hcluster : QuotedAs "c" "\"c\"".toList := ⟨_, hplain "c" (by simp), rfl⟩
  have horgMember : Json.MemberOf ("org_id", "null".toList) "\"org_id\":null".toList :=
    ⟨_, [], [], hplain "org_id" (by simp), hnone, hnone, rfl⟩
  have hclusterMember : Json.MemberOf ("cluster_id", "\"c\"".toList)
      "\"cluster_id\":\"c\"".toList :=
    ⟨_, [], [], hplain "cluster_id" (by simp), hnone, hnone, rfl⟩
  have hmetadata : RecordOf (Metadata.known { clusterId := some "c" })
      "\x7b\"org_id\":null ,\"cluster_id\":\"c\"\x7d".toList := by
    refine ⟨[("org_id", "null".toList), ("cluster_id", "\"c\"".toList)], ?_,
      _, .items (.more hnone horgMember hspace (.last hnone hclusterMember hnone)), rfl⟩
    refine ⟨by simp [Metadata.known], ?_, ?_, ?_⟩
    · simp [Metadata.known]
    · simpa [Metadata.known, OptionOf] using hcluster
    · simp [Metadata.known]
  -- the request
  have hletter : Json.SpellsChar 'r' "\\u0072".toList :=
    .code (.digits (hdigit 0 (by decide)) (hdigit 0 (by decide)) (hdigit 7 (by decide))
      (hdigit 2 (by decide)))
  have hsmile : QuotedAs "😀" "\"\\ud83D\\ude00\"".toList := by
    have hhigh := Json.Hex.digits (hdigit 13 (by decide)) (hdigit 8 (by decide))
      (hdigit 3 (by decide)) hcapital
    have hlow := Json.Hex.digits (hdigit 13 (by decide)) (hdigit 14 (by decide))
      (hdigit 0 (by decide)) (hdigit 0 (by decide))
    exact ⟨_, .cons (.pair (by decide) (by decide) (by decide) hhigh hlow) .nil, rfl⟩
  -- the members of the event
  have hotherMember : Json.MemberOf ("x", "[1E+999, \x7b\"\\ud800\":true\x7d]".toList)
      "\"x\": [1E+999, \x7b\"\\ud800\":true\x7d]".toList :=
    ⟨_, [], [' '], hplain "x" (by simp), hnone, hspace, rfl⟩
  have hmetadataMember : Json.MemberOf
      ("metadata", "\x7b\"org_id\":null ,\"cluster_id\":\"c\"\x7d".toList)
      "\"metadata\":\x7b\"org_id\":null ,\"cluster_id\":\"c\"\x7d".toList :=
    ⟨_, [], [], hplain "metadata" (by simp), hnone, hnone, by decide +kernel⟩
  have hrequestMember : Json.MemberOf ("request_id", "\"\\ud83D\\ude00\"".toList)
      "\"\\u0072equest_id\":\"\\ud83D\\ude00\"".toList :=
    ⟨_, [], [], .cons hletter (hplain "equest_id" (by simp)), hnone, hnone, by decide +kernel⟩
  have hitems := Json.Items.more hnone hotherMember hnone
    (.more hnone hmetadataMember hnone (.last htab hrequestMember hnone))
  have hdescribes : Json.Describes smiling.known
      [("x", "[1E+999, \x7b\"\\ud800\":true\x7d]".toList),
        ("metadata", "\x7b\"org_id\":null ,\"cluster_id\":\"c\"\x7d".toList),
        ("request_id", "\"\\ud83D\\ude00\"".toList)] := by
    refine ⟨by simp [known], ?_, ?_, ?_⟩
    · simp [known, smiling]
    · simpa [known, smiling, OptionOf] using ⟨hmetadata, hsmile⟩
    · simpa [known] using hlist
  have hpresented : smiling.PresentedBy smilingText :=
    ⟨[], _, ['\n'], hnone, ⟨_, hdescribes, _, .items hitems, rfl⟩, hline, by decide +kernel⟩
  exact ⟨hpresented, decode_presented hpresented⟩

end UsageFeed.Event
