import UsageFeed.Proofs.JsonValues

/-!
# `UsageFeed.Proofs.JsonRecords` — values of known kinds are read as they were written

There is one rule for each decoder, so that how a value is read follows the way its decoder is made.

## Contents
- **Plain values.** `reads_text` and its like.
- **Values of values.** `reads_ofOption`, `reads_list`, `reads_map`, and `refuses_list`.
- **Records.** `Fills`, members that fill the fields of a record in order, and `Stops`, members that
  do so up to one that is refused; `Progress`, how far a record has been read; `reads_record` and
  `refuses_record`.
-/

namespace UsageFeed.Json

variable {α β κ : Type} {n : Nat}

/-! ## Plain values -/

theorem reads_text (t : String) : Reads n .text (.text t) t := by
  intro depth rest _ _
  obtain ⟨spelled, hquote, hread⟩ := readText_quote t rest
  rw [chars, hquote]
  exact hread

theorem reads_bool (b : Bool) : Reads n .bool (.bool b) b := by
  intro depth rest _ _
  cases b <;> rfl

/-- A whole number between the bounds of its kind is read as it was written. -/
theorem reads_whole {expected : String} {low high m : Int} (hlow : low ≤ m) (hhigh : m ≤ high)
    (hmin : -Nat.pow 2 63 ≤ low) (hmax : high < Nat.pow 2 64) :
    Reads n (.whole expected low high) (.int m) m := by
  intro depth rest _ hrest
  have hspells : Spells (bytes (intChars m)) (.whole m) :=
    spells_whole (Int.le_trans hmin hlow) (Int.lt_of_le_of_lt hhigh hmax)
  refine hspells.number ?_ hrest.endsNumber
  simp [hlow, hhigh]

theorem reads_count {m : Nat} (h : m < Nat.pow 2 32) : Reads n .count (.nat m) m := by
  intro depth rest hdepth hrest
  have hpow : Nat.pow 2 32 = 4294967296 ∧ Nat.pow 2 63 = 9223372036854775808 ∧
      Nat.pow 2 64 = 18446744073709551616 := ⟨rfl, rfl, rfl⟩
  have hread : Reads n (.whole "u32" 0 (Nat.pow 2 32 - 1)) (.int m) (m : Int) :=
    reads_whole (by omega) (by omega) (by omega) (by omega)
  have hnumber : Decoder.whole "u32" 0 (Nat.pow 2 32 - 1) depth (bytes (chars (.nat m)) ++ rest) =
      .ok (m, rest) := hread depth rest hdepth hrest
  unfold Decoder.count
  rw [hnumber]
  rfl

theorem reads_long {m : Int} (hlow : -Nat.pow 2 63 ≤ m) (hhigh : m < Nat.pow 2 63) :
    Reads n .long (.int m) m := by
  have hpow : Nat.pow 2 63 = 9223372036854775808 ∧ Nat.pow 2 64 = 18446744073709551616 := ⟨rfl, rfl⟩
  exact reads_whole hlow (by omega) (by omega) (by omega)

theorem reads_float {x : Float} (h : Survives x) : Reads n .float (.float x) x := by
  intro depth rest _ hrest
  unfold Decoder.float
  refine h.spells.number ?_ hrest.endsNumber
  rfl

/-- A name that is known is read as the variant it is the name of. -/
theorem readVariant_known {known : List (String × α)} {name : String} {a : α}
    (h : known.lookup name = some a) {s t : List UInt8} (hs : readText s = .ok (name, t)) :
    readVariant known s = .ok (a, t) := by
  unfold readVariant
  rw [hs]
  simp only [bind, Except.bind, h]

theorem reads_variant {known : List (String × α)} {name : String} {a : α}
    (h : known.lookup name = some a) : Reads n (.variant known) (.text name) a := by
  intro depth rest _ _
  obtain ⟨spelled, hquote, hread⟩ := readText_quote name rest
  rw [chars, hquote]
  exact readVariant_known h hread

/-! ## Values of values -/

variable {d : Decoder α}

theorem reads_none : Reads n d.option .null none := by
  intro depth rest _ _
  rfl

theorem Reads.some {j : Json} {a : α} (h : Reads n d j a) (hj : j.isNull = false) :
    Reads n d.option j (some a) := by
  intro depth rest hdepth hrest
  obtain ⟨b, s, hb, hspace, -, hnull⟩ := bytes_chars j
  have hread := h depth rest hdepth hrest
  rw [hb, List.cons_append] at hread ⊢
  unfold Decoder.option
  rw [skipSpace_cons hspace]
  simp only [if_neg (hnull hj), hread]
  rfl

theorem reads_ofOption {write : α → Json} (h : ∀ a, Reads n d (write a) a)
    (hnull : ∀ a, (write a).isNull = false) (o : Option α) :
    Reads n d.option (ofOption write o) o := by
  cases o with
  | none => exact reads_none
  | some a => exact (h a).some (hnull a)

theorem reads_list {write : α → Json} {as : List α} (h : ∀ a ∈ as, Reads n d (write a) a) :
    Reads (n + 1) d.list (.list (as.map write)) as := by
  intro depth rest hdepth _
  obtain ⟨depth, rfl⟩ : ∃ m, depth = m + 1 := Nat.exists_eq_add_one.mpr (by omega)
  have hlength := length_le_restOfList true (as.map write) rest
  rw [List.length_map] at hlength
  rw [bytes_list]
  exact readItems_written (fun a ha rest => h a ha depth rest (Nat.le_of_succ_le_succ hdepth)) true
    (Nat.lt_succ_of_le hlength) rest

/-- A list is refused if one of its items is, where every other one is read. -/
theorem refuses_list {write : α → Json} {as : List α}
    (h : ∀ a ∈ as, Reads n d (write a) a ∨ Refuses n d (write a))
    (hone : ∃ a ∈ as, Refuses n d (write a)) : Refuses (n + 1) d.list (.list (as.map write)) := by
  intro rest _
  rw [bytes_list]
  refine refuses_items ?_ ?_ true _ rest
  · intro j hj
    obtain ⟨a, ha, rfl⟩ := List.mem_map.mp hj
    exact (h a ha).imp_left fun hread => ⟨a, hread⟩
  · obtain ⟨a, ha, hrefuses⟩ := hone
    exact ⟨write a, List.mem_map_of_mem ha, hrefuses⟩

theorem reads_map {name : List UInt8 → Reading κ} {write : κ × α → String × Json}
    {entries : List (κ × α)}
    (hname : ∀ e ∈ entries, ∀ s t, readText s = .ok ((write e).1, t) → name s = .ok (e.1, t))
    (hvalue : ∀ e ∈ entries, Reads n d (write e).2 e.2) :
    Reads (n + 1) (.map name d) (.object (entries.map write)) entries := by
  intro depth rest hdepth _
  obtain ⟨depth, rfl⟩ : ∃ m, depth = m + 1 := Nat.exists_eq_add_one.mpr (by omega)
  have hlength := length_le_restOfObject true (entries.map write) rest
  rw [List.length_map] at hlength
  rw [bytes_object]
  exact readMembers_written hname
    (fun e he rest => hvalue e he depth rest (Nat.le_of_succ_le_succ hdepth)) true
    (Nat.lt_succ_of_le hlength) rest

/-! ## Records -/

/-- A field takes a document into a record, whatever follows it. -/
def Field.Takes (f : Field α) (n : Nat) (j : Json) (a b : α) : Prop :=
  ∀ depth rest, n ≤ depth → Ends rest → f.read depth a (bytes (chars j) ++ rest) = .ok (b, rest)

theorem takes_of {d : Decoder β} {j : Json} {v : β} (h : Reads n d j v) (name : String)
    (set : α → β → α) (a : α) : (Field.of name d set).Takes n j a (set a v) := by
  intro depth rest hdepth hrest
  show (d depth (bytes (chars j) ++ rest)).map _ = _
  rw [h depth rest hdepth hrest]
  rfl

/-- Members fill fields one after another. A field that is not required may be left out. -/
inductive Fills (n : Nat) : List (Field α) → List (String × Json) → α → α → Prop
  | done {a : α} : Fills n [] [] a a
  | member {f : Field α} {fields : List (Field α)} {j : Json} {members : List (String × Json)}
      {a b c : α} (takes : f.Takes n j a b) (more : Fills n fields members b c) :
      Fills n (f :: fields) ((f.name, j) :: members) a c
  | absent {f : Field α} {fields : List (Field α)} {members : List (String × Json)} {a c : α}
      (optional : f.required = false) (more : Fills n fields members a c) :
      Fills n (f :: fields) members a c

section Fills

variable {name : String} {d : Decoder β} {set : α → β → α} {fields : List (Field α)} {j : Json}
variable {members : List (String × Json)} {v : β} {a c : α}

theorem Fills.field (h : Reads n d j v) (more : Fills n fields members (set a v) c) :
    Fills n (Field.of name d set :: fields) ((name, j) :: members) a c :=
  Fills.member (takes_of h name set a) more

theorem Fills.defaulted (h : Reads n d j v) (more : Fills n fields members (set a v) c) :
    Fills n ((Field.of name d set).defaulted :: fields) ((name, j) :: members) a c := by
  have htakes : (Field.of name d set).defaulted.Takes n j a (set a v) := takes_of h name set a
  exact Fills.member htakes more

/-- A value that may be lacking is written as a member if it is there, and otherwise left out; a
field that is not required takes it in both cases. -/
theorem Fills.ofOption {set : α → Option β → α} {write : β → Json} {o : Option β} {mayEnd : Bool}
    (h : ∀ b, o = some b → Reads n d (write b) b ∧ (write b).isNull = false)
    (hset : set a none = a) (more : Fills n fields members (set a o) c) :
    Fills n ({ Field.of name d.option set with required := false, mayEnd := mayEnd } :: fields)
      ((o.map fun b => (name, write b)).toList ++ members) a c := by
  cases o with
  | none =>
    rw [hset] at more
    exact Fills.absent rfl more
  | some b =>
    obtain ⟨hread, hnull⟩ := h b rfl
    have htakes : Field.Takes
        { Field.of name d.option set with required := false, mayEnd := mayEnd } n (write b) a
        (set a (some b)) := takes_of (hread.some hnull) name set a
    exact Fills.member htakes more

end Fills

/-- Members fill fields up to one that is refused. -/
inductive Stops (n : Nat) : List (Field α) → List (String × Json) → α → Prop
  | refused {f : Field α} {fields : List (Field α)} {j : Json} {members : List (String × Json)}
      {a : α} (refuses : ∀ rest, Ends rest →
        ∃ fault, f.read n a (bytes (chars j) ++ rest) = .error fault) :
      Stops n (f :: fields) ((f.name, j) :: members) a
  | member {f : Field α} {fields : List (Field α)} {j : Json} {members : List (String × Json)}
      {a b : α} (takes : f.Takes n j a b) (more : Stops n fields members b) :
      Stops n (f :: fields) ((f.name, j) :: members) a

section Stops

variable {name : String} {d : Decoder β} {set : α → β → α} {fields : List (Field α)} {j : Json}
variable {members : List (String × Json)} {v : β} {a : α}

theorem Stops.field (h : Reads n d j v) (more : Stops n fields members (set a v)) :
    Stops n (Field.of name d set :: fields) ((name, j) :: members) a :=
  Stops.member (takes_of h name set a) more

theorem Stops.here (h : Refuses n d j) :
    Stops n (Field.of name d set :: fields) ((name, j) :: members) a := by
  have hread : ∀ rest, Ends rest →
      ∃ fault, (Field.of name d set).read n a (bytes (chars j) ++ rest) = .error fault := by
    intro rest hrest
    obtain ⟨fault, hfault⟩ := h rest hrest
    refine ⟨fault, ?_⟩
    show (d n (bytes (chars j) ++ rest)).map _ = _
    rw [hfault]
    rfl
  exact Stops.refused hread

end Stops

section Record

variable {sh : Shape α}

/-- A field is found by its name. -/
theorem find?_field {before fields : List (Field α)} {f : Field α}
    (h : ((before ++ f :: fields).map (·.name)).Nodup) :
    (before ++ f :: fields).find? (·.name == f.name) = some f := by
  rw [List.map_append, List.nodup_append] at h
  obtain ⟨-, -, hdistinct⟩ := h
  have hbefore : before.find? (·.name == f.name) = none := by
    rw [List.find?_eq_none]
    intro g hg
    simpa using hdistinct g.name (List.mem_map.mpr ⟨g, hg, rfl⟩) f.name List.mem_cons_self
  rw [List.find?_append, hbefore]
  simp

/-- How far a record has been read: the fields `before` are done, `fields` are to come, and `seen`
are the names that were read. -/
structure Progress (sh : Shape α) (before fields : List (Field α)) (seen : List String) :
    Prop where
  distinct : (sh.fields.map (·.name)).Nodup
  split : sh.fields = before ++ fields
  done : ∀ name ∈ seen, name ∈ before.map (·.name)
  required : ∀ f ∈ before, f.required → f.name ∈ seen

namespace Progress

variable {before fields : List (Field α)} {f : Field α} {seen : List String}

theorem start (h : (sh.fields.map (·.name)).Nodup) : Progress sh [] sh.fields [] where
  distinct := h
  split := (List.nil_append _).symm
  done _ h := absurd h List.not_mem_nil
  required _ h := absurd h List.not_mem_nil

theorem find? (h : Progress sh before (f :: fields) seen) :
    sh.fields.find? (·.name == f.name) = some f := by
  have hdistinct := h.distinct
  rw [h.split] at hdistinct ⊢
  exact find?_field hdistinct

/-- A field that is to come has not been seen. -/
theorem isNew (h : Progress sh before (f :: fields) seen) : seen.contains f.name = false := by
  have hdistinct := h.distinct
  rw [h.split, List.map_append, List.nodup_append] at hdistinct
  obtain ⟨-, -, hdiffer⟩ := hdistinct
  rw [← Bool.not_eq_true, List.contains_iff_mem]
  exact fun hmem => hdiffer _ (h.done _ hmem) _ List.mem_cons_self rfl

/-- A field is done with, be it because it was seen or because it may be left out. -/
theorem next (h : Progress sh before (f :: fields) seen) {seen' : List String}
    (hseen : ∀ name, name ∈ seen' → name = f.name ∨ name ∈ seen)
    (hkeep : ∀ name ∈ seen, name ∈ seen') (hf : f.required → f.name ∈ seen') :
    Progress sh (before ++ [f]) fields seen' where
  distinct := h.distinct
  split := by rw [h.split, List.append_assoc, List.singleton_append]
  done name hname := by
    rw [List.map_append, List.mem_append]
    rcases hseen name hname with rfl | hname
    · exact .inr (List.mem_singleton_self _)
    · exact .inl (h.done name hname)
  required g hg hreq := by
    rcases List.mem_append.mp hg with hg | hg
    · exact hkeep _ (h.required g hg hreq)
    · rw [List.mem_singleton.mp hg] at hreq ⊢
      exact hf hreq

theorem taken (h : Progress sh before (f :: fields) seen) :
    Progress sh (before ++ [f]) fields (f.name :: seen) :=
  h.next (fun _ => List.mem_cons.mp) (fun _ => List.mem_cons_of_mem _) fun _ => List.mem_cons_self

theorem absent (h : Progress sh before (f :: fields) seen) (optional : f.required = false) :
    Progress sh (before ++ [f]) fields seen :=
  h.next (fun _ => .inr) (fun _ => id) fun hreq => absurd hreq (by simp [optional])

/-- At the end nothing is missing. -/
theorem missing? (h : Progress sh before [] seen) : sh.missing? seen = none := by
  unfold Shape.missing?
  rw [h.split, List.append_nil, List.find?_eq_none.mpr, Option.map_none]
  intro f hf
  simp only [Bool.and_eq_true, Bool.not_eq_true', not_and, Bool.not_eq_false]
  intro hreq
  exact List.contains_iff_mem.mpr (h.required f hf hreq)

end Progress

/-- The next member is found by its name, and its field reads its value. -/
theorem readMembers_member {before fields : List (Field α)} {f : Field α} {seen : List String}
    (h : Progress sh before (f :: fields) seen) (depth fuel : Nat) (first : Bool) (a : α) (j : Json)
    (members : List (String × Json)) (s : List UInt8) :
    sh.readMembers depth (fuel + 1) first seen a
        (restOf spellMember closeObject first ((f.name, j) :: members) s) =
      (f.read depth a (bytes (chars j) ++ restOf spellMember closeObject false members s)).bind
        fun r => sh.readMembers depth fuel false (f.name :: seen) r.1 r.2 := by
  have hcolon : ∀ s, readColon (colonByte :: s) = .ok s := fun _ => rfl
  obtain ⟨spelled, hnext, hread⟩ := nextName_cons first (f.name, j) members s
  rw [Shape.readMembers, hnext]
  simp only [bind, Except.bind, hread, h.find?, h.isNew, Bool.false_eq_true, if_false, hcolon]

/-- **The members of a record are read one after another**, by induction on how they fill it. -/
theorem readMembers_fills {before fields : List (Field α)} {seen : List String}
    (hprogress : Progress sh before fields seen) {members : List (String × Json)} {a b : α}
    (h : Fills n fields members a b) {depth : Nat} (hdepth : n ≤ depth) (first : Bool) {fuel : Nat}
    (hfuel : members.length < fuel) (s : List UInt8) :
    sh.readMembers depth fuel first seen a (restOf spellMember closeObject first members s) =
      .ok (b, s) := by
  induction h generalizing before seen first fuel with
  | @done a =>
    obtain ⟨fuel, rfl⟩ : ∃ m, fuel = m + 1 := Nat.exists_eq_add_one.mpr hfuel
    -- the object ends here, and no field that is required is missing
    have hnext : nextName first (closeObject :: s) = .ok (false, closeObject :: s) := by
      cases first <;> rfl
    rw [restOf, Shape.readMembers, hnext]
    simp only [bind, Except.bind, hprogress.missing?]
    rfl
  | @member f fields j members a b c takes more ih =>
    obtain ⟨fuel, rfl⟩ : ∃ m, fuel = m + 1 := Nat.exists_eq_add_one.mpr (Nat.zero_lt_of_lt hfuel)
    rw [readMembers_member hprogress, takes depth _ hdepth (ends_restOfObject members s)]
    exact ih hprogress.taken false (Nat.lt_of_succ_lt_succ hfuel)
  | @absent f fields members a c optional more ih =>
    -- nothing is read, and the next member is as much the first one as before
    exact ih (hprogress.absent optional) first hfuel

/-- The members of a record are read up to the one that is refused. -/
theorem readMembers_stops {before fields : List (Field α)} {seen : List String}
    (hprogress : Progress sh before fields seen) {members : List (String × Json)} {a : α}
    (h : Stops n fields members a) (first : Bool) (fuel : Nat) (s : List UInt8) :
    ∃ fault, sh.readMembers n fuel first seen a (restOf spellMember closeObject first members s) =
      .error fault := by
  induction h generalizing before seen first fuel with
  | @refused f fields j members a refuses =>
    cases fuel with
    | zero => exact ⟨_, rfl⟩
    | succ fuel =>
      obtain ⟨fault, hfault⟩ := refuses _ (ends_restOfObject members s)
      rw [readMembers_member hprogress, hfault]
      exact ⟨fault, rfl⟩
  | @member f fields j members a b takes more ih =>
    cases fuel with
    | zero => exact ⟨_, rfl⟩
    | succ fuel =>
      rw [readMembers_member hprogress, takes n _ (Nat.le_refl n) (ends_restOfObject members s)]
      exact ih hprogress.taken false fuel

/-- **A record is read as it was written**, if its members fill its fields in order. -/
theorem reads_record (hnodup : (sh.fields.map (·.name)).Nodup) {members : List (String × Json)}
    {a : α} (h : Fills n sh.fields members sh.start a) :
    Reads (n + 1) sh.decode (.object members) a := by
  intro depth rest hdepth _
  obtain ⟨depth, rfl⟩ : ∃ m, depth = m + 1 := Nat.exists_eq_add_one.mpr (by omega)
  rw [bytes_object]
  exact readMembers_fills (.start hnodup) h (Nat.le_of_succ_le_succ hdepth) true
    (Nat.lt_succ_of_le (length_le_restOfObject true members rest)) rest

/-- A record is refused if one of its members is, where those before fill its fields in order. -/
theorem refuses_record (hnodup : (sh.fields.map (·.name)).Nodup) {members : List (String × Json)}
    (h : Stops n sh.fields members sh.start) : Refuses (n + 1) sh.decode (.object members) := by
  intro rest _
  rw [bytes_object]
  exact readMembers_stops (.start hnodup) h true _ rest

end Record

end UsageFeed.Json
