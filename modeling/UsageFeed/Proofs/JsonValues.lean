import Mathlib.Data.List.Induction
import UsageFeed.Proofs.JsonNumbers

/-!
# `UsageFeed.Proofs.JsonValues` — documents are read as they were written

## Contents
- **Beginnings.** `bytes_chars`, what the text of a document begins with; `isNull`, whether it is
  null.
- **Bodies.** `restOf`, the bytes of a container from any place between its items on, for lists and
  for objects; `readItems_written` and `readMembers_written`.
- **Reading.** `Reads`, which says that a decoder takes the text of a document for a value, whatever
  follows, and `Refuses`, which says that it does not.
- **Any document.** `IsValue`, the documents that are kept as values, and `IsValue.reads`.
- **Refusal.** `refuses_items` and `refuses_members`, then `IsValue.refuses`.
-/

namespace UsageFeed.Json

/-! ## Beginnings -/

/-- Whether null is written for a document. -/
def isNull : Json → Bool
  | .null => true
  | .number (.float x) => !Decimal.isFinite x
  | _ => false

/-- The text of a document begins neither with space nor like the end of a list, and it begins like
null only for null. -/
theorem bytes_chars (j : Json) :
    ∃ b s, bytes (chars j) = b :: s ∧ isSpace b = false ∧ b ≠ closeList ∧
      (j.isNull = false → b ≠ 0x6E) := by
  have hdigit : ∀ {b : UInt8}, isDigitByte b →
      isSpace b = false ∧ b ≠ closeList ∧ (j.isNull = false → b ≠ 0x6E) := fun hb =>
    ⟨isSpace_of_isDigitByte hb, ne_of_isDigitByte hb (by decide),
      fun _ => ne_of_isDigitByte hb (by decide)⟩
  cases j with
  | null => exact ⟨_, _, rfl, by decide, by decide, fun h => by cases h⟩
  | bool b => cases b <;> exact ⟨_, _, rfl, by decide, by decide, fun _ => by decide⟩
  | text t => exact ⟨_, _, rfl, by decide, by decide, fun _ => by decide⟩
  | list items => exact ⟨_, _, rfl, by decide, by decide, fun _ => by decide⟩
  | object members => exact ⟨_, _, rfl, by decide, by decide, fun _ => by decide⟩
  | number v =>
    cases v with
    | whole n =>
      show ∃ b s, bytes (intChars n) = b :: s ∧ _
      unfold intChars
      split
      · exact ⟨_, _, rfl, by decide, by decide, fun _ => by decide⟩
      · obtain ⟨d, more, hd, hlt, -⟩ := exists_firstDigit n.natAbs
        obtain ⟨b, hb, hisDigit, -, -⟩ := exists_digit hlt
        rw [Nat.repr_eq_ofList_toDigits, String.toList_ofList, hd, bytes_cons, hb]
        exact ⟨_, _, rfl, hdigit hisDigit⟩
    | float x =>
      show ∃ b s, bytes (Number.chars (.float x)) = b :: s ∧ _
      by_cases hfinite : Decimal.isFinite x
      · obtain ⟨c, more, hcs, hfirst⟩ := (Decimal.isNumeral_finite x).first
        rw [Number.chars, if_pos hfinite, hcs]
        rcases hfirst with rfl | hfirst
        · exact ⟨_, _, rfl, by decide, by decide, fun _ => by decide⟩
        · obtain ⟨b, hb, hisDigit⟩ := encodeChar_isDigit hfirst
          rw [bytes_cons, hb]
          exact ⟨_, _, rfl, hdigit hisDigit⟩
      · rw [Number.chars, if_neg hfinite]
        refine ⟨_, _, rfl, by decide, by decide, fun h => ?_⟩
        simp [isNull, hfinite] at h

/-! ## Bodies -/

section RestOf

variable {α : Type} {spell : α → List Char} {close : UInt8}

/-- The bytes of a container from its first item on, or after some item, and what follows it. -/
def restOf (spell : α → List Char) (close : UInt8) : Bool → List α → List UInt8 → List UInt8
  | _, [], s => close :: s
  | first, a :: as, s =>
    (if first then [] else [commaByte]) ++ (bytes (spell a) ++ restOf spell close false as s)

/-- The first item stands there right away, a further one behind a comma. -/
theorem at_restOf (first : Bool) (spell : α → List Char) (close : UInt8) (a : α) (as : List α)
    (s : List UInt8) : At first (restOf spell close first (a :: as) s)
      (bytes (spell a) ++ restOf spell close false as s) := by
  cases first with
  | true => rfl
  | false => exact skipSpace_cons (by decide) _

theorem ends_restOf (hclose : close = closeList ∨ close = closeObject) (as : List α)
    (s : List UInt8) : Ends (restOf spell close false as s) := by
  cases as with
  | nil => exact .inr hclose
  | cons a as => exact .inl rfl

theorem length_le_restOf (hspell : ∀ a, 0 < (bytes (spell a)).length) (first : Bool) (as : List α)
    (s : List UInt8) : as.length ≤ (restOf spell close first as s).length := by
  induction as generalizing first with
  | nil => exact Nat.zero_le _
  | cons a as ih =>
    have hrest := ih false
    have ha := hspell a
    simp only [restOf, List.length_append, List.length_cons]
    omega

/-- Items that are joined by commas are the body of a container. -/
theorem bytes_joined {join : List α → List Char} (hnil : join [] = [])
    (hone : ∀ a, join [a] = spell a)
    (hmore : ∀ a b as, join (a :: b :: as) = spell a ++ ',' :: join (b :: as))
    (as : List α) (s : List UInt8) :
    bytes (join as) ++ close :: s = restOf spell close true as s := by
  induction as with
  | nil =>
    rw [hnil]
    rfl
  | cons a as ih =>
    cases as with
    | nil =>
      rw [hone]
      rfl
    | cons b as =>
      rw [hmore, bytes_append, bytes_cons, List.append_assoc, List.append_assoc, ih]
      rfl

end RestOf

theorem bytes_list (items : List Json) (s : List UInt8) :
    bytes (chars (.list items)) ++ s = openList :: restOf chars closeList true items s := by
  have hbody : bytes (itemChars items) ++ closeList :: s = restOf chars closeList true items s :=
    bytes_joined itemChars.eq_1 itemChars.eq_2 itemChars.eq_3 items s
  have hopen : String.utf8EncodeChar '[' = [openList] := rfl
  have hclose : String.utf8EncodeChar ']' = [closeList] := rfl
  rw [chars, List.cons_append, bytes_between hopen hclose, hbody]

theorem ends_restOfList (items : List Json) (s : List UInt8) :
    Ends (restOf chars closeList false items s) :=
  ends_restOf (.inl rfl) items s

theorem length_le_restOfList (first : Bool) (items : List Json) (s : List UInt8) :
    items.length ≤ (restOf chars closeList first items s).length := by
  refine length_le_restOf (fun j => ?_) first items s
  obtain ⟨b, more, hb, -⟩ := bytes_chars j
  rw [hb]
  exact Nat.zero_lt_succ _

theorem nextItem_cons (first : Bool) (j : Json) (items : List Json) (s : List UInt8) :
    nextItem first (restOf chars closeList first (j :: items) s) =
      .ok (true, bytes (chars j) ++ restOf chars closeList false items s) := by
  obtain ⟨b, more, hb, hspace, hclose, -⟩ := bytes_chars j
  have hplace := at_restOf first chars closeList j items s
  rw [hb, List.cons_append] at hplace ⊢
  exact nextItem_at hplace (skipSpace_cons hspace _) hclose

/-- **The items of a list are read one after another.** -/
theorem readItems_written {α : Type} {item : List UInt8 → Reading α} {write : α → Json}
    {as : List α}
    (h : ∀ a ∈ as, ∀ rest, Ends rest → item (bytes (chars (write a)) ++ rest) = .ok (a, rest))
    (first : Bool) {fuel : Nat} (hfuel : as.length < fuel) (s : List UInt8) :
    readItems item fuel first (restOf chars closeList first (as.map write) s) = .ok (as, s) := by
  induction as generalizing first fuel with
  | nil =>
    obtain ⟨fuel, rfl⟩ : ∃ n, fuel = n + 1 := Nat.exists_eq_add_one.mpr hfuel
    rw [List.map_nil, restOf]
    cases first <;> rfl
  | cons a as ih =>
    obtain ⟨fuel, rfl⟩ : ∃ n, fuel = n + 1 := Nat.exists_eq_add_one.mpr (Nat.zero_lt_of_lt hfuel)
    obtain ⟨ha, has⟩ := List.forall_mem_cons.mp h
    rw [List.map_cons, readItems, nextItem_cons]
    simp only [bind, Except.bind]
    rw [ha _ (ends_restOfList _ s)]
    simp only [ih has false (Nat.lt_of_succ_lt_succ hfuel)]

/-- The characters of a member. -/
def spellMember (m : String × Json) : List Char := quote m.1 ++ ':' :: chars m.2

theorem bytes_object (members : List (String × Json)) (s : List UInt8) :
    bytes (chars (.object members)) ++ s =
      openObject :: restOf spellMember closeObject true members s := by
  have hbody : bytes (memberChars members) ++ closeObject :: s =
      restOf spellMember closeObject true members s :=
    bytes_joined memberChars.eq_1 (fun _ => rfl) (fun _ _ _ => rfl) members s
  have hopen : String.utf8EncodeChar '\x7b' = [openObject] := rfl
  have hclose : String.utf8EncodeChar '\x7d' = [closeObject] := rfl
  rw [chars, List.cons_append, bytes_between hopen hclose, hbody]

theorem ends_restOfObject (members : List (String × Json)) (s : List UInt8) :
    Ends (restOf spellMember closeObject false members s) :=
  ends_restOf (.inr rfl) members s

theorem length_le_restOfObject (first : Bool) (members : List (String × Json)) (s : List UInt8) :
    members.length ≤ (restOf spellMember closeObject first members s).length := by
  refine length_le_restOf (fun m => ?_) first members s
  exact Nat.zero_lt_succ _

/-- The next member is found by its name, and after it stand a colon and its value. -/
theorem nextName_cons (first : Bool) (m : String × Json) (members : List (String × Json))
    (s : List UInt8) :
    let more := restOf spellMember closeObject false members s
    ∃ spelled,
      nextName first (restOf spellMember closeObject first (m :: members) s) = .ok (true, spelled) ∧
        readText spelled = .ok (m.1, colonByte :: (bytes (chars m.2) ++ more)) := by
  intro more
  obtain ⟨spelled, hquote, hread⟩ := readText_quote m.1 (colonByte :: (bytes (chars m.2) ++ more))
  refine ⟨spelled, ?_, hread⟩
  have hmember : bytes (spellMember m) ++ more = quoteByte :: spelled := by
    rw [← hquote, spellMember, bytes_append, List.append_assoc, bytes_cons, List.append_assoc]
    rfl
  have hplace := at_restOf first spellMember closeObject m members s
  rw [hmember] at hplace
  exact nextName_at hplace (skipSpace_cons (by decide) _)

/-- **The members of an object are read one after another**, under names that are read as the texts
they are. -/
theorem readMembers_written {κ α : Type} {name : List UInt8 → Reading κ}
    {value : List UInt8 → Reading α} {write : κ × α → String × Json} {entries : List (κ × α)}
    (hname : ∀ e ∈ entries, ∀ s t, readText s = .ok ((write e).1, t) → name s = .ok (e.1, t))
    (hvalue : ∀ e ∈ entries, ∀ rest, Ends rest →
      value (bytes (chars (write e).2) ++ rest) = .ok (e.2, rest))
    (first : Bool) {fuel : Nat} (hfuel : entries.length < fuel) (s : List UInt8) :
    readMembers name value fuel first (restOf spellMember closeObject first (entries.map write) s) =
      .ok (entries, s) := by
  induction entries generalizing first fuel with
  | nil =>
    obtain ⟨fuel, rfl⟩ : ∃ n, fuel = n + 1 := Nat.exists_eq_add_one.mpr hfuel
    rw [List.map_nil, restOf]
    cases first <;> rfl
  | cons e entries ih =>
    obtain ⟨fuel, rfl⟩ : ∃ n, fuel = n + 1 := Nat.exists_eq_add_one.mpr (Nat.zero_lt_of_lt hfuel)
    obtain ⟨hn, hnames⟩ := List.forall_mem_cons.mp hname
    obtain ⟨hv, hvalues⟩ := List.forall_mem_cons.mp hvalue
    obtain ⟨spelled, hnext, hread⟩ := nextName_cons first (write e) (entries.map write) s
    have hcolon : ∀ s, readColon (colonByte :: s) = .ok s := fun _ => rfl
    rw [List.map_cons, readMembers, hnext]
    simp only [bind, Except.bind]
    rw [hn _ _ hread]
    simp only [hcolon]
    rw [hv _ (ends_restOfObject _ s)]
    simp only [ih hnames hvalues false (Nat.lt_of_succ_lt_succ hfuel)]

/-! ## Reading -/

section Reads

variable {α : Type} {n : Nat} {d : Decoder α} {j : Json} {a : α}

/-- Where `n` containers may yet open, the text of a document is read as a value, whatever follows
it. -/
def Reads (n : Nat) (d : Decoder α) (j : Json) (a : α) : Prop :=
  ∀ depth rest, n ≤ depth → Ends rest → d depth (bytes (chars j) ++ rest) = .ok (a, rest)

/-- So is the text by itself. -/
theorem Reads.run (h : Reads n d j a) (hn : n ≤ nestingLimit) :
    Decoder.run d (Text.Utf8.encode j.write) = .ok a := by
  have hread := h nestingLimit [] hn trivial
  rw [List.append_nil] at hread
  unfold Decoder.run
  rw [encode_write, hread]
  rfl

/-- Where `depth` containers may yet open, the text of a document is refused, whatever follows
it. -/
def Refuses (depth : Nat) (d : Decoder α) (j : Json) : Prop :=
  ∀ rest, Ends rest → ∃ f, d depth (bytes (chars j) ++ rest) = .error f

/-- So is the text by itself. -/
theorem Refuses.run (h : Refuses nestingLimit d j) :
    Decoder.run d (Text.Utf8.encode j.write) ≠ .ok a := by
  obtain ⟨f, hf⟩ := h [] trivial
  rw [List.append_nil] at hf
  unfold Decoder.run
  rw [encode_write, hf]
  nofun

theorem Refuses.not_reads (h : Refuses n d j) : ¬Reads n d j a := by
  intro hread
  obtain ⟨f, hf⟩ := h [] trivial
  rw [hread n [] (Nat.le_refl n) trivial] at hf
  cases hf

end Reads

/-! ## Any document -/

mutual

/-- The greatest number of containers that are open at once in a document. -/
def nesting : Json → Nat
  | .list items => itemsNesting items + 1
  | .object members => membersNesting members + 1
  | _ => 0

/-- The greatest number of containers that are open at once in one of several documents. -/
def itemsNesting : List Json → Nat
  | [] => 0
  | j :: rest => max (nesting j) (itemsNesting rest)

/-- The greatest number of containers that are open at once in one of several members. -/
def membersNesting : List (String × Json) → Nat
  | [] => 0
  | (_, j) :: rest => max (nesting j) (membersNesting rest)

end

theorem nesting_le_items {j : Json} {items : List Json} (h : j ∈ items) :
    nesting j ≤ itemsNesting items := by
  induction items with
  | nil => exact absurd h List.not_mem_nil
  | cons k items ih =>
    rw [itemsNesting]
    rcases List.mem_cons.mp h with rfl | h
    · exact Nat.le_max_left _ _
    · exact Nat.le_trans (ih h) (Nat.le_max_right _ _)

theorem membersNesting_eq (members : List (String × Json)) :
    membersNesting members = itemsNesting (members.map (·.2)) := by
  induction members with
  | nil => rfl
  | cons m members ih => rw [membersNesting, List.map_cons, itemsNesting, ih]

theorem nesting_le_members {m : String × Json} {members : List (String × Json)}
    (h : m ∈ members) : nesting m.2 ≤ membersNesting members := by
  rw [membersNesting_eq]
  exact nesting_le_items (List.mem_map_of_mem h)

/-- A document that can be kept as a value: its whole numbers have 64 bits, its floats survive, and
the members of its objects are sorted by names that differ. -/
inductive IsValue : Json → Prop
  | null : IsValue .null
  | bool (b : Bool) : IsValue (.bool b)
  | whole {n : Int} (low : -Nat.pow 2 63 ≤ n) (high : n < Nat.pow 2 64) :
      IsValue (.number (.whole n))
  | float {x : Float} (survives : Survives x) : IsValue (.number (.float x))
  | text (t : String) : IsValue (.text t)
  | list {items : List Json} (h : ∀ j ∈ items, IsValue j) : IsValue (.list items)
  | object {members : List (String × Json)} (sorted : members.Pairwise (·.1 < ·.1))
      (h : ∀ m ∈ members, IsValue m.2) : IsValue (.object members)

theorem insertMember_last {name : String} {j : Json} {members : List (String × Json)}
    (h : ∀ m ∈ members, m.1 < name) : insertMember name j members = members ++ [(name, j)] := by
  induction members with
  | nil => rfl
  | cons m members ih =>
    obtain ⟨hm, hmembers⟩ := List.forall_mem_cons.mp h
    have hne : name ≠ m.1 := by
      rintro rfl
      exact String.lt_irrefl _ hm
    rw [insertMember, if_neg (String.lt_asymm hm), if_neg hne, ih hmembers, List.cons_append]

/-- Members that are sorted are left as they are. -/
theorem sortMembers_sorted {members : List (String × Json)}
    (h : members.Pairwise (·.1 < ·.1)) : sortMembers members = members := by
  induction members using List.reverseRecOn with
  | nil => rfl
  | append_singleton members m ih =>
    obtain ⟨hmembers, -, hlast⟩ := List.pairwise_append.mp h
    have hfold : sortMembers (members ++ [m]) = insertMember m.1 m.2 (sortMembers members) := by
      unfold sortMembers
      rw [List.foldl_append]
      rfl
    rw [hfold, ih hmembers]
    exact insertMember_last fun k hk => hlast k hk m (List.mem_singleton_self m)

theorem readValue_scalar {b : UInt8} (hspace : isSpace b = false) (hlist : b ≠ openList)
    (hobject : b ≠ openObject) (depth : Nat) (s : List UInt8) :
    readValue depth (b :: s) = readScalar (b :: s) := by
  unfold readValue
  rw [skipSpace_cons hspace]
  simp only [if_neg hlist, if_neg hobject]

/-- A number that is spelled is read as a document. -/
theorem Spells.readValue {s : List UInt8} {v : Number} (h : Spells s v) (depth : Nat)
    {rest : List UInt8} (hrest : EndsNumber rest) :
    Json.readValue depth (s ++ rest) = .ok (.number v, rest) := by
  cases h with
  | @negative s v h =>
    have hread : readScalar (0x2D :: (s ++ rest)) =
        (readNumber true (s ++ rest)).bind fun r => .ok (.number r.1, r.2) := rfl
    rw [List.cons_append, readValue_scalar (by decide) (by decide) (by decide), hread, h rest hrest]
    rfl
  | @positive b s v hb h =>
    have hne : ∀ {c : UInt8}, isDigitByte c = false → b ≠ c := ne_of_isDigitByte hb
    have hn : b ≠ 0x6E := hne (by decide)
    have ht : b ≠ 0x74 := hne (by decide)
    have hf : b ≠ 0x66 := hne (by decide)
    have hminus : b ≠ 0x2D := hne (by decide)
    have hnumber : readNumber false (b :: (s ++ rest)) = .ok (v, rest) := h rest hrest
    rw [List.cons_append, readValue_scalar (isSpace_of_isDigitByte hb) (hne (by decide))
      (hne (by decide))]
    unfold readScalar
    simp only [if_neg hn, if_neg ht, if_neg hf, if_neg hminus, if_pos hb, bind, Except.bind,
      hnumber]

/-- **Any document is read as it was written**, by induction on how it is kept. -/
theorem IsValue.reads {j : Json} (h : IsValue j) {n : Nat} (hn : nesting j ≤ n) :
    Reads n Json.readValue j j := by
  induction h generalizing n with
  | null =>
    intro depth rest _ _
    exact readValue_scalar (by decide) (by decide) (by decide) depth _
  | bool b =>
    intro depth rest _ _
    cases b <;> exact readValue_scalar (by decide) (by decide) (by decide) depth _
  | whole low high =>
    intro depth rest _ hrest
    exact (spells_whole low high).readValue depth hrest.endsNumber
  | float survives =>
    intro depth rest _ hrest
    exact survives.spells.readValue depth hrest.endsNumber
  | text t =>
    intro depth rest _ _
    obtain ⟨spelled, hquote, hread⟩ := readText_quote t rest
    have htext : readScalar (quoteByte :: spelled) =
        (readText spelled).bind fun r => .ok (.text r.1, r.2) := rfl
    rw [chars, hquote, readValue_scalar (by decide) (by decide) (by decide), htext, hread]
    rfl
  | @list items _ ih =>
    intro depth rest hdepth _
    rw [nesting] at hn
    obtain ⟨depth, rfl⟩ : ∃ m, depth = m + 1 := Nat.exists_eq_add_one.mpr (by omega)
    have hitems : ∀ j ∈ items, ∀ rest, Ends rest →
        Json.readValue depth (bytes (chars (id j)) ++ rest) = .ok (j, rest) := fun j hj rest =>
      ih j hj (nesting_le_items hj) depth rest (by omega)
    -- each item is read within one container less
    have hread := readItems_written hitems true
      (Nat.lt_succ_of_le (length_le_restOfList true items rest)) rest
    rw [List.map_id] at hread
    rw [bytes_list, Json.readValue, skipSpace_cons (by decide)]
    simp only [if_true, hread]
    rfl
  | @object members sorted _ ih =>
    intro depth rest hdepth _
    rw [nesting] at hn
    obtain ⟨depth, rfl⟩ : ∃ m, depth = m + 1 := Nat.exists_eq_add_one.mpr (by omega)
    have hvalues : ∀ m ∈ members, ∀ rest, Ends rest →
        Json.readValue depth (bytes (chars (id m).2) ++ rest) = .ok (m.2, rest) := fun m hm rest =>
      ih m hm (nesting_le_members hm) depth rest (by omega)
    have hread := @readMembers_written _ _ readText _ id members (fun _ _ _ _ h => h) hvalues true _
      (Nat.lt_succ_of_le (length_le_restOfObject true members rest)) rest
    rw [List.map_id] at hread
    have hopen : openObject ≠ openList := by decide
    rw [bytes_object, Json.readValue, skipSpace_cons (by decide)]
    simp only [if_neg hopen, if_true, hread]
    show Except.ok (Json.object (sortMembers members), rest) = _
    rw [sortMembers_sorted sorted]

/-! ## Refusal -/

/-- One of several documents nests as deep as all of them. -/
theorem lt_itemsNesting {depth : Nat} {items : List Json} (h : depth < itemsNesting items) :
    ∃ j ∈ items, depth < nesting j := by
  induction items with
  | nil => exact absurd h (Nat.not_lt_zero depth)
  | cons j items ih =>
    have hmax : depth < nesting j ∨ depth < itemsNesting items := by
      rw [itemsNesting] at h
      omega
    rcases hmax with h | h
    · exact ⟨j, List.mem_cons_self, h⟩
    · obtain ⟨k, hk, hdeep⟩ := ih h
      exact ⟨k, List.mem_cons_of_mem _ hk, hdeep⟩

section Refusal

variable {α : Type} {d : Decoder α} {depth : Nat}

/-- **The body of a list is refused if one of its items is**, where every other one is read. -/
theorem refuses_items {items : List Json}
    (h : ∀ j ∈ items, (∃ a, Reads depth d j a) ∨ Refuses depth d j)
    (hone : ∃ j ∈ items, Refuses depth d j) (first : Bool) (fuel : Nat) (s : List UInt8) :
    ∃ f, readItems (d depth) fuel first (restOf chars closeList first items s) = .error f := by
  induction items generalizing first fuel with
  | nil =>
    obtain ⟨j, hj, -⟩ := hone
    exact absurd hj List.not_mem_nil
  | cons j items ih =>
    cases fuel with
    | zero => exact ⟨_, rfl⟩
    | succ fuel =>
      have hends := ends_restOfList items s
      obtain ⟨hj, hitems⟩ := List.forall_mem_cons.mp h
      rw [readItems, nextItem_cons]
      rcases hj with ⟨a, hread⟩ | hrefuses
      · -- this item is read, so that the one that is refused comes later
        have hmore : ∃ k ∈ items, Refuses depth d k := by
          obtain ⟨k, hk, hrefuses⟩ := hone
          rcases List.mem_cons.mp hk with rfl | hk
          · exact absurd hread hrefuses.not_reads
          · exact ⟨k, hk, hrefuses⟩
        obtain ⟨f, hf⟩ := ih hitems hmore false fuel
        refine ⟨f, ?_⟩
        simp only [bind, Except.bind, hread depth _ (Nat.le_refl _) hends, hf]
      · obtain ⟨f, hf⟩ := hrefuses _ hends
        refine ⟨f, ?_⟩
        simp only [bind, Except.bind, hf]

/-- So is that of an object. -/
theorem refuses_members {members : List (String × Json)}
    (h : ∀ m ∈ members, (∃ a, Reads depth d m.2 a) ∨ Refuses depth d m.2)
    (hone : ∃ m ∈ members, Refuses depth d m.2) (first : Bool) (fuel : Nat) (s : List UInt8) :
    ∃ f, readMembers readText (d depth) fuel first
      (restOf spellMember closeObject first members s) = .error f := by
  induction members generalizing first fuel with
  | nil =>
    obtain ⟨m, hm, -⟩ := hone
    exact absurd hm List.not_mem_nil
  | cons m members ih =>
    cases fuel with
    | zero => exact ⟨_, rfl⟩
    | succ fuel =>
      have hends := ends_restOfObject members s
      have hcolon : ∀ s, readColon (colonByte :: s) = .ok s := fun _ => rfl
      obtain ⟨hm, hmembers⟩ := List.forall_mem_cons.mp h
      obtain ⟨spelled, hnext, hname⟩ := nextName_cons first m members s
      rw [readMembers, hnext]
      rcases hm with ⟨a, hread⟩ | hrefuses
      · have hmore : ∃ k ∈ members, Refuses depth d k.2 := by
          obtain ⟨k, hk, hrefuses⟩ := hone
          rcases List.mem_cons.mp hk with rfl | hk
          · exact absurd hread hrefuses.not_reads
          · exact ⟨k, hk, hrefuses⟩
        obtain ⟨f, hf⟩ := ih hmembers hmore false fuel
        refine ⟨f, ?_⟩
        simp only [bind, Except.bind, hname, hcolon, hread depth _ (Nat.le_refl _) hends, hf]
      · obtain ⟨f, hf⟩ := hrefuses _ hends
        refine ⟨f, ?_⟩
        simp only [bind, Except.bind, hname, hcolon, hf]

end Refusal

/-- **A document that nests too deep is refused.** -/
theorem IsValue.refuses {j : Json} (h : IsValue j) {depth : Nat} (hdeep : depth < nesting j) :
    Refuses depth Json.readValue j := by
  induction h generalizing depth with
  | null | bool | whole | float | text => exact absurd hdeep (Nat.not_lt_zero depth)
  | @list items hitems ih =>
    intro rest _
    rw [bytes_list, Json.readValue, skipSpace_cons (by decide)]
    cases depth with
    | zero => exact ⟨_, rfl⟩
    | succ depth =>
      rw [nesting] at hdeep
      obtain ⟨j, hj, hlt⟩ := lt_itemsNesting (Nat.lt_of_succ_lt_succ hdeep)
      have hread : ∀ j ∈ items, (∃ a, Reads depth Json.readValue j a) ∨
          Refuses depth Json.readValue j := fun j hj =>
        (Nat.lt_or_ge depth (nesting j)).elim (fun hlt => .inr (ih j hj hlt))
          fun hle => .inl ⟨j, (hitems j hj).reads hle⟩
      obtain ⟨f, hf⟩ := refuses_items hread ⟨j, hj, ih j hj hlt⟩ true
        ((restOf chars closeList true items rest).length + 1) rest
      refine ⟨f, ?_⟩
      simp only [if_true, bind, Except.bind, hf]
  | @object members sorted hmembers ih =>
    intro rest _
    have hopen : openObject ≠ openList := by decide
    rw [bytes_object, Json.readValue, skipSpace_cons (by decide)]
    cases depth with
    | zero => exact ⟨_, rfl⟩
    | succ depth =>
      rw [nesting, membersNesting_eq] at hdeep
      obtain ⟨j, hj, hlt⟩ := lt_itemsNesting (Nat.lt_of_succ_lt_succ hdeep)
      -- the value that nests so deep is that of a member
      obtain ⟨m, hm, rfl⟩ := List.mem_map.mp hj
      have hread : ∀ m ∈ members, (∃ a, Reads depth Json.readValue m.2 a) ∨
          Refuses depth Json.readValue m.2 := fun m hm =>
        (Nat.lt_or_ge depth (nesting m.2)).elim (fun hlt => .inr (ih m hm hlt))
          fun hle => .inl ⟨m.2, (hmembers m hm).reads hle⟩
      obtain ⟨f, hf⟩ := refuses_members hread ⟨m, hm, ih m hm hlt⟩ true
        ((restOf spellMember closeObject true members rest).length + 1) rest
      refine ⟨f, ?_⟩
      simp only [if_neg hopen, if_true, bind, Except.bind, hf]

/-- **A value is read back just if it nests within the limit.** -/
theorem IsValue.read_eq_ok_iff {j : Json} (h : IsValue j) :
    Json.read (Text.Utf8.encode j.write) = .ok j ↔ nesting j ≤ nestingLimit := by
  constructor
  · intro hread
    by_contra hdeep
    exact (h.refuses (Nat.lt_of_not_le hdeep)).run hread
  · exact (h.reads (Nat.le_refl _)).run

end UsageFeed.Json
