import Mathlib.Data.List.Nodup
import TripWatch.Proofs.Json.Reading

/-!
# Decoding what was written

A record is written member by member and decoded field by field. `FieldReader.Reads` says what a
reader makes of some written members, whatever other members stand around them: it is said for one
field and put together as the reader is, so a record whose reader takes the fields in the order in
which they are written is decoded by one such statement.

What comes of a value is an option. A double that is not finite is written as `null`, and a double
may be read as another one, so decoding may fail, or succeed with another value.

## Main definitions

* `Json.Fields.Holds` — fields among which written members are found
* `Json.FieldReader.Reads` — what a reader makes of written members

## Main results

* `Json.FieldReader.Reads.map`, `.seq`, `.required`, `.withDefault` — readers, put together
* `Json.toOption_record`, `Json.toOption_flattened` — whole records
* `Json.toOption_list`, `Json.toOption_map`, `Json.toOption_optional`, `Json.toOption_named` —
  values in lists, under keys, that may be absent, and with names
-/

namespace TripWatch.Json

variable {α β : Type}

/-! ### Finding fields -/

/-- Written members are found among fields, each under its name. -/
def Fields.Holds (fields : Fields) (members : List (String × Json)) : Prop :=
  ∀ m ∈ members, ∃ place, fields.find? m.1 = some (place, m.2.document)

theorem Fields.Holds.mono {fields : Fields} {members few : List (String × Json)}
    (h : fields.Holds members) (hfew : few ⊆ members) : fields.Holds few :=
  fun m hm => h m (hfew hm)

theorem exists_find?_go {members : List (String × Json)} (hnodup : (members.map Prod.fst).Nodup)
    {m : String × Json} (hm : m ∈ members) (start : Nat) :
    ∃ place, Fields.find?.go m.1 start (memberDocuments members) =
      some (place, m.2.document) := by
  induction members generalizing start with
  | nil => cases hm
  | cons first members ih =>
    obtain ⟨k, v⟩ := first
    obtain ⟨hfresh, hrest⟩ := List.nodup_cons.mp hnodup
    rcases List.mem_cons.mp hm with rfl | hmem
    · exact ⟨start, by simp [memberDocuments, Fields.find?.go]⟩
    · have hne : k ≠ m.1 := by
        intro heq
        have hkey := List.mem_map_of_mem (f := Prod.fst) hmem
        rw [← heq] at hkey
        exact hfresh hkey
      obtain ⟨place, hplace⟩ := ih hrest hmem (start + 1)
      refine ⟨place, ?_⟩
      simpa [memberDocuments, Fields.find?.go, hne] using hplace

theorem holds_memberDocuments {members : List (String × Json)}
    (hnodup : (members.map Prod.fst).Nodup) (missing : Placed) :
    Fields.Holds ⟨memberDocuments members, missing⟩ members :=
  fun _ hm => exists_find?_go hnodup hm 0

/-- Members with different names that are known, or kept and readable, have no fault. -/
theorem membersFault_eq_none (names : List String) (unknown : Unknown)
    {members : List (String × Json)} (hnodup : (members.map Prod.fst).Nodup)
    (hknown : ∀ m ∈ members, m.1 ∈ names ∨ unknown = .kept ∧ m.2.document.readFault = none)
    {earlier : List String} (hearlier : ∀ m ∈ members, m.1 ∉ earlier) (place : Nat) :
    membersFault names unknown .closed place earlier (memberDocuments members) = none := by
  induction members generalizing place earlier with
  | nil => rfl
  | cons first members ih =>
    obtain ⟨k, v⟩ := first
    obtain ⟨hfresh, hrest⟩ := List.nodup_cons.mp hnodup
    have hfirst : memberFault names unknown earlier (some k, v.document) = none := by
      have hk : k ∉ earlier := hearlier (k, v) List.mem_cons_self
      unfold memberFault
      dsimp only
      by_cases hname : k ∈ names
      · rw [if_pos hname, if_neg hk]
      · obtain ⟨rfl, hread⟩ := (hknown (k, v) List.mem_cons_self).resolve_left hname
        rw [if_neg hname]
        exact hread
    have hmore : ∀ m ∈ members, m.1 ∉ k :: earlier := by
      intro m hm hmem
      rcases List.mem_cons.mp hmem with heq | hmem
      · have hkey := List.mem_map_of_mem (f := Prod.fst) hm
        rw [heq] at hkey
        exact hfresh hkey
      · exact hearlier m (List.mem_cons_of_mem _ hm) hmem
    rw [memberDocuments, membersFault, hfirst]
    exact ih hrest (fun m hm => hknown m (List.mem_cons_of_mem _ hm)) hmore (place + 1)

/-! ### Readers of fields -/

/-- A reader takes fields of the names of some written members, and this is what it makes of them
among any fields. -/
structure FieldReader.Reads (reader : FieldReader α) (members : List (String × Json))
    (value? : Option α) : Prop where
  /-- The names are those of the members. -/
  names : reader.names = members.map Prod.fst
  /-- What is read. -/
  run : ∀ fields : Fields, fields.Holds members → (reader.run fields).toOption = value?

namespace FieldReader

theorem toOption_map {ε : Type} (g : α → β) (r : Except ε α) :
    (r.map g).toOption = r.toOption.map g := by
  cases r <;> rfl

variable {members more : List (String × Json)}

theorem Reads.map {x : FieldReader α} {value? : Option α} (g : α → β)
    (h : x.Reads members value?) : (g <$> x).Reads members (g <$> value?) where
  names := h.names
  run fields hfields := (toOption_map g _).trans (congrArg (Option.map g) (h.run fields hfields))

theorem Reads.seq {f : FieldReader (α → β)} {x : FieldReader α} {make? : Option (α → β)}
    {value? : Option α} (hf : f.Reads members make?) (hx : x.Reads more value?) :
    (f <*> x).Reads (members ++ more) (make? <*> value?) where
  names := by rw [List.map_append, ← hf.names, ← hx.names]; rfl
  run fields hfields := by
    rw [← hf.run fields (hfields.mono (List.subset_append_left _ _)),
      ← hx.run fields (hfields.mono (List.subset_append_right _ _))]
    change (FieldReader.seq f x |>.run fields).toOption = _
    unfold FieldReader.seq
    dsimp only
    cases f.run fields <;> cases x.run fields <;> rfl

variable {name : String} {v : Json} {decoder : Decoder α}

/-- The value of a field that is there does not depend on what stands for its absence. -/
theorem toOption_readOr {fields : Fields} (h : fields.Holds [(name, v)])
    (fallback : Except Placed α) :
    (read? name decoder fields >>= fun a? =>
      match a? with
      | some a => .ok a
      | none => fallback).toOption = (decoder v.document).toOption := by
  obtain ⟨place, hfind⟩ := h (name, v) (List.mem_singleton_self _)
  rw [read?, hfind]
  dsimp only
  cases decoder v.document <;> rfl

theorem Reads.required {value? : Option α} (h : (decoder v.document).toOption = value?) :
    (FieldReader.required name decoder).Reads [(name, v)] value? where
  names := rfl
  run fields hfields := (toOption_readOr hfields (.error fields.missing)).trans h

theorem Reads.withDefault {default : α} {value? : Option α}
    (h : (decoder v.document).toOption = value?) :
    (FieldReader.withDefault name default decoder).Reads [(name, v)] value? where
  names := rfl
  run _ hfields := (toOption_readOr hfields (.ok default)).trans h

end FieldReader

/-! ### Records -/

section Records

variable {members : List (String × Json)} {value? : Option α}

theorem toOption_settle (result : Except Placed α) :
    (settle result none).toOption = result.toOption := by
  cases result <;> rfl

theorem toOption_ofMembers (unknown : Unknown) {reader : FieldReader α}
    {few : List (String × Json)} (hreads : reader.Reads few value?) (hfew : few ⊆ members)
    (hnodup : (members.map Prod.fst).Nodup)
    (hknown : ∀ m ∈ members, m.1 ∈ reader.names ∨
      unknown = .kept ∧ m.2.document.readFault = none) :
    (ofMembers unknown reader (memberDocuments members) .closed).toOption = value? := by
  have hfault := membersFault_eq_none reader.names unknown hnodup hknown
    (fun _ _ => List.not_mem_nil) 0
  rw [ofMembers, hfault, toOption_settle]
  exact hreads.run _ ((holds_memberDocuments hnodup _).mono hfew)

/-- **A record is decoded as its fields are read.** -/
theorem toOption_record {reader : FieldReader α} {written : List (String × Json)}
    (hreads : reader.Reads members value?) (hwritten : members = written)
    (hnodup : reader.names.Nodup) :
    (Decoder.record reader (Json.record written).document).toOption = value? := by
  subst hwritten
  rw [document]
  exact toOption_ofMembers .skipped hreads (List.Subset.refl members) (hreads.names ▸ hnodup)
    fun m hm => .inl (hreads.names ▸ List.mem_map_of_mem hm)

theorem toOption_bind {ε : Type} (r : Except ε α) (f : α → Except ε β) :
    (r >>= f).toOption = r.toOption.bind fun a => (f a).toOption := by
  cases r <;> rfl

theorem filter_memberDocuments (names : List String) :
    ((memberDocuments members).filter fun m => m.1.all (· ∉ names)) =
      memberDocuments (members.filter fun m => m.1 ∉ names) := by
  rw [memberDocuments_eq, memberDocuments_eq, List.filter_map]
  rfl

/-- **A record with the fields of another one in the midst of its own.** -/
theorem toOption_flattened {outer : FieldReader (β → α)} {inner : FieldReader β}
    {own first middle last : List (String × Json)} {make? : Option (β → α)} {inner? : Option β}
    (houter : outer.Reads own make?) (hwritten : own = first ++ last)
    (hinner : inner.Reads middle inner?) (hnames : (outer.names ++ inner.names).Nodup)
    (hread : ∀ m ∈ middle, m.2.document.readFault = none) :
    (Decoder.flattened outer inner (Json.record (first ++ middle ++ last)).document).toOption =
      make? <*> inner? := by
  subst hwritten
  have hnodup : ((first ++ middle ++ last).map Prod.fst).Nodup := by
    rw [houter.names, hinner.names, ← List.map_append] at hnames
    have hperm : (first ++ last ++ middle).Perm (first ++ middle ++ last) := by
      rw [List.append_assoc, List.append_assoc]
      exact List.perm_append_comm.append_left first
    exact (hperm.map Prod.fst).nodup_iff.mp hnames
  obtain ⟨-, hmiddle, hdisjoint⟩ := List.nodup_append.mp hnames
  have hown : ∀ m ∈ first ++ last, m.1 ∈ outer.names := by
    intro m hm
    rw [houter.names]
    exact List.mem_map_of_mem hm
  have hinside : ∀ m ∈ middle, m.1 ∈ inner.names := by
    intro m hm
    rw [hinner.names]
    exact List.mem_map_of_mem hm
  have hrest : (first ++ middle ++ last).filter (fun m => m.1 ∉ outer.names) = middle := by
    have hfirst' : first.filter (fun m => m.1 ∉ outer.names) = [] := by
      simpa using fun k v hm => hown (k, v) (List.mem_append_left _ hm)
    have hlast' : last.filter (fun m => m.1 ∉ outer.names) = [] := by
      simpa using fun k v hm => hown (k, v) (List.mem_append_right _ hm)
    have hmiddle' : middle.filter (fun m => m.1 ∉ outer.names) = middle := by
      simpa using fun k v hm hmem => hdisjoint k hmem k (hinside (k, v) hm) rfl
    rw [List.filter_append, List.filter_append, hfirst', hlast', hmiddle', List.nil_append,
      List.append_nil]
  have hsubset : first ++ last ⊆ first ++ middle ++ last := by
    intro m hm
    rcases List.mem_append.mp hm with h | h
    · exact List.mem_append_left _ (List.mem_append_left _ h)
    · exact List.mem_append_right _ h
  have hmake := toOption_ofMembers .kept houter hsubset hnodup fun m hm => by
    rcases List.mem_append.mp hm with h | h
    · rcases List.mem_append.mp h with h | h
      · exact .inl (hown m (List.mem_append_left _ h))
      · exact .inr ⟨rfl, hread m h⟩
    · exact .inl (hown m (List.mem_append_right _ h))
  have hinner' := toOption_ofMembers .skipped hinner (List.Subset.refl middle)
    (hinner.names ▸ hmiddle) fun m hm => .inl (hinside m hm)
  rw [document, Decoder.flattened, toOption_bind, hmake]
  cases make? with
  | none => rfl
  | some make =>
    dsimp only [Option.bind_some]
    rw [filter_memberDocuments, hrest, toOption_bind, hinner']
    cases inner? <;> rfl

end Records

/-! ### Scalars, lists and options -/

theorem toOption_text (s : String) : (Decoder.text (text s).document).toOption = some s := rfl

theorem toOption_bool (b : Bool) : (Decoder.bool (bool b).document).toOption = some b := rfl

theorem intWithin_int {low high n : Int} (hlow : low ≤ n) (hhigh : n ≤ high)
    (hfirst : -0x8000000000000000 ≤ low) (hlast : high ≤ 0xFFFFFFFFFFFFFFFF) :
    Decoder.intWithin low high (int n).document = .ok n := by
  rw [document, numberOf_intChars (Int.le_trans hfirst hlow) (Int.le_trans hhigh hlast),
    Decoder.intWithin, if_pos ⟨hlow, hhigh⟩]

theorem toOption_word (n : Int64) :
    (Decoder.word (ofWord n).document).toOption = some n := by
  rw [ofWord, Decoder.word, intWithin_int n.minValue_le_toInt n.toInt_le (by decide) (by decide)]
  exact congrArg some (Int64.ofInt_toInt n)

theorem readFault_int {n : Int} (hlow : -0x8000000000000000 ≤ n)
    (hhigh : n ≤ 0xFFFFFFFFFFFFFFFF) : (int n).document.readFault = none := by
  rw [document, numberOf_intChars hlow hhigh]
  rfl

theorem toOption_unsigned32 (n : UInt32) :
    (Decoder.unsigned32 (ofNat n.toNat).document).toOption = some n := by
  have hhigh := n.toNat_lt
  rw [ofNat, Decoder.unsigned32, intWithin_int (by omega) (by omega) (by decide) (by decide)]
  exact congrArg some (UInt32.ofNat_toNat)

/-- A sequence of steps that keep what they are given keeps it as a whole. -/
theorem mapM_eq_some {f : α → Option α} {items : List α} (h : ∀ a ∈ items, f a = some a) :
    items.mapM f = some items := by
  induction items with
  | nil => rfl
  | cons a items ih =>
    rw [List.mapM_cons, h a List.mem_cons_self, ih fun b hb => h b (List.mem_cons_of_mem a hb)]
    rfl

/-- A list is decoded item by item. -/
theorem toOption_list {decoder : Decoder β} {write : α → Json} {value? : α → Option β}
    (h : ∀ a, (decoder (write a).document).toOption = value? a) (items : List α) :
    (Decoder.list decoder (ofList write items).document).toOption = items.mapM value? := by
  have hitems : (Decoder.items decoder (itemDocuments (items.map write))).toOption =
      items.mapM value? := by
    induction items with
    | nil => rfl
    | cons a items ih =>
      rw [List.map_cons, itemDocuments, Decoder.items, List.mapM_cons, toOption_bind, h a, ← ih]
      cases value? a with
      | none => rfl
      | some b => cases Decoder.items decoder (itemDocuments (items.map write)) <;> rfl
  rw [ofList, document, Decoder.list, toOption_bind, hitems]
  cases items.mapM value? <;> rfl

/-- A table is decoded entry by entry. -/
theorem toOption_map {decoder : Decoder β} {write : α → Json} {value? : α → Option β}
    (h : ∀ a, (decoder (write a).document).toOption = value? a) (entries : List (String × α)) :
    (Decoder.map decoder (Json.record (entries.map fun (k, a) => (k, write a))).document).toOption =
      entries.mapM fun e => (value? e.2).map (Prod.mk e.1) := by
  have hentries : (Decoder.members decoder
      (memberDocuments (entries.map fun (k, a) => (k, write a)))).toOption =
        entries.mapM fun e => (value? e.2).map (Prod.mk e.1) := by
    induction entries with
    | nil => rfl
    | cons e entries ih =>
      rw [List.map_cons, memberDocuments, Decoder.members, List.mapM_cons, toOption_bind, h e.2,
        ← ih]
      cases value? e.2 with
      | none => rfl
      | some b =>
        cases Decoder.members decoder
          (memberDocuments (entries.map fun (k, a) => (k, write a))) <;> rfl
  rw [document, Decoder.map, toOption_bind, hentries]
  cases entries.mapM fun e => (value? e.2).map (Prod.mk e.1) <;> rfl

/-- A value is not written like the absence of one. -/
def IsPresent : Json → Prop
  | .null | .double _ => False
  | _ => True

/-- A value that may be absent is decoded if it is there. -/
theorem toOption_optional {decoder : Decoder β} {write : α → Json} {value? : α → Option β}
    (h : ∀ a, (decoder (write a).document).toOption = value? a)
    (hpresent : ∀ a, (write a).IsPresent) (value : Option α) :
    (Decoder.optional decoder (ofOption write value).document).toOption = value.mapM value? := by
  cases value with
  | none => rfl
  | some a =>
    have hdecoded : Decoder.optional decoder (write a).document =
        (decoder (write a).document).map some := by
      have hthere := hpresent a
      cases hwrite : write a with
      | null | double d =>
        rw [hwrite] at hthere
        exact hthere.elim
      | bool b | int n | text s | list items | record members => rfl
    rw [ofOption, hdecoded, FieldReader.toOption_map, h a]
    rfl

theorem toOption_text? (s : Option String) :
    (Decoder.optional Decoder.text (ofText? s).document).toOption = some s := by
  cases s <;> rfl

theorem toOption_word? (n : Option Int64) :
    (Decoder.optional Decoder.word (ofWord? n).document).toOption = some n := by
  rw [ofWord?, toOption_optional toOption_word fun _ => trivial]
  cases n <;> rfl

theorem toOption_named {ofName? : String → Option α} {name : String} {a : α}
    (h : ofName? name = some a) :
    (Decoder.named ofName? (text name).document).toOption = some a := by
  rw [document, Decoder.named, Decoder.textThat, Decoder.text]
  dsimp only [bind, Except.bind]
  rw [h]
  rfl

end TripWatch.Json
