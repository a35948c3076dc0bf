import Mathlib.Data.List.Basic
import TripWatch.Json.Decode

/-!
# No NaN is ever read

A text names numbers by their digits, so whatever number it names, it is a number. That is not quite
how numbers are read: digits are gathered into a word, which is scaled by powers of ten with rounded
products and quotients. Each of these is rounded from an exact quotient, and what is rounded so is
at most an infinity.

Above the numbers it is a matter of passing it on. A value that is decoded has doubles where its
decoder reads them, and `Decoder.Yields` says what holds of all values of a decoder: it is said for
doubles, and put together as decoders are.

## Main definitions

* `Document.IsNumeric` — the doubles in a document are numbers
* `Decoder.Yields`, `FieldReader.Yields` — what holds of all that is decoded from such a document

## Main results

* `Double.isNaN_ofRatio` — what is rounded from a quotient is a number
* `Document.isNumeric_ofChars` — no text has a NaN in it
* `Decoder.yields_double`, `Decoder.Yields.list`, `Decoder.Yields.record`,
  `FieldReader.Yields.seq` — decoders, put together
* `Decoder.Yields.of_decode` — whole texts
-/

namespace TripWatch

theorem bind_eq_ok_iff {ε α β : Type} {x : Except ε α} {f : α → Except ε β} {b : β} :
    (x >>= f) = .ok b ↔ ∃ a, x = .ok a ∧ f a = .ok b := by
  cases x <;> simp [bind, Except.bind]

/-! ### Doubles that are computed -/

namespace Double

theorem magnitude_lt (d : Double) : d.magnitude < Nat.pow 2 63 := Nat.mod_lt _ (by decide)

theorem magnitude_ofMagnitude (negative : Bool) {m : Nat} (h : m < Nat.pow 2 63) :
    (ofMagnitude negative m).magnitude = m := by
  have hbits : (ofMagnitude negative m).bits.toNat = m + if negative then Nat.pow 2 63 else 0 := by
    rw [Nat.pow_eq] at h
    simp only [ofMagnitude, UInt64.toNat_ofNat', Nat.pow_eq]
    cases negative <;> simp <;> omega
  rw [Nat.pow_eq] at h
  rw [magnitude, hbits, Nat.pow_eq]
  cases negative <;> simp <;> omega

/-- What is rounded from a quotient is a number, or an infinity at most. -/
theorem isNaN_ofRatio (negative : Bool) (num den : Nat) :
    (ofRatio negative num den).isNaN = false := by
  have hle : magnitudeOfRatio num den ≤ infinityMagnitude := by
    unfold magnitudeOfRatio
    split
    · exact Nat.zero_le _
    · exact Nat.min_le_right _ _
  have hlt : magnitudeOfRatio num den < Nat.pow 2 63 := Nat.lt_of_le_of_lt hle (by decide)
  rw [isNaN, ofRatio, magnitude_ofMagnitude negative hlt]
  simpa using hle

theorem isNaN_negated (d : Double) : d.negated.isNaN = d.isNaN := by
  rw [isNaN, negated, magnitude_ofMagnitude _ d.magnitude_lt, isNaN]

theorem isNaN_of_isFinite {d : Double} (h : d.isFinite = true) : d.isNaN = false := by
  simp only [isFinite, isNaN, decide_eq_true_eq, decide_eq_false_iff_not] at h ⊢
  omega

end Double

namespace Json

/-! ### Numbers that are read -/

/-- A number is no NaN. -/
def Number.IsNumeric : Number → Prop
  | .double d => d.isNaN = false
  | .int _ | .outOfRange => True

theorem isNaN_of_scaleSteps {fuel : Nat} {d scaled : Double} {power : Int}
    (hd : d.isNaN = false) (h : scaleSteps fuel d power = some scaled) : scaled.isNaN = false := by
  induction fuel generalizing d power with
  | zero =>
    cases h
    exact hd
  | succ fuel ih =>
    unfold scaleSteps at h
    split at h
    · dsimp only at h
      split at h
      · split at h
        · cases h
          exact Double.isNaN_of_isFinite ‹_›
        · cases h
      · cases h
        exact Double.isNaN_ofRatio ..
    · split at h
      · cases h
        exact hd
      · split at h
        · cases h
        · exact ih (Double.isNaN_ofRatio ..) h

theorem isNumeric_numberOfParts (negative : Bool) (whole fraction : List Char)
    (power : Option Int) : (numberOfParts negative whole fraction power).IsNumeric := by
  unfold numberOfParts
  dsimp only
  split
  · split
    · split
      · exact (Double.isNaN_negated _).trans (Double.isNaN_ofRatio ..)
      · trivial
    · trivial
  · unfold numberOfDouble
    split
    · trivial
    · have hscaled := isNaN_of_scaleSteps (Double.isNaN_ofRatio ..) ‹_›
      cases negative
      · exact hscaled
      · exact (Double.isNaN_negated _).trans hscaled

theorem isNumeric_scanTail {negative : Bool} {whole cs rest : List Char} {n : Number}
    (h : scanTail negative whole cs = (.ok n, rest)) : n.IsNumeric := by
  unfold scanTail at h
  split at h
  · dsimp only at h
    split at h
    · cases h
    · split at h <;> cases h
      exact isNumeric_numberOfParts ..
  · split at h <;> cases h
    exact isNumeric_numberOfParts ..

theorem isNumeric_scanNumber {cs rest : List Char} {n : Number}
    (h : scanNumber cs = (.ok n, rest)) : n.IsNumeric := by
  have hunsigned {negative : Bool} {cs : List Char}
      (h : scanUnsigned negative cs = (.ok n, rest)) : n.IsNumeric := by
    unfold scanUnsigned at h
    dsimp only at h
    split at h
    · cases h
    · cases h
    · exact isNumeric_scanTail h
  unfold scanNumber at h
  split at h <;> exact hunsigned h

/-! ### Documents -/

/-- The doubles in a document are numbers. -/
inductive Document.IsNumeric : Document → Prop
  | null : IsNumeric .null
  | bool (b : Bool) : IsNumeric (.bool b)
  | number {n : Number} (h : n.IsNumeric) : IsNumeric (.number n)
  | text (s : Option String) : IsNumeric (.text s)
  | list {items : List Document} (h : ∀ d ∈ items, IsNumeric d) (cut : Option Fault) :
      IsNumeric (.list items cut)
  | record {members : List (Option String × Document)} (h : ∀ m ∈ members, IsNumeric m.2)
      (ending : Ending) : IsNumeric (.record members ending)
  | tooDeep {inner : Document} (h : IsNumeric inner) : IsNumeric (.tooDeep inner)
  | broken (opening : Opening) (read skipped : Fault) : IsNumeric (.broken opening read skipped)

namespace Document

theorem isNumeric_markDepth {d : Document} (h : d.IsNumeric) (level : Nat) :
    (markDepth level d).IsNumeric := by
  unfold markDepth
  split
  · exact .tooDeep h
  · exact h

theorem isNumeric_scanName {value : Document} (h : value.IsNumeric) (opening : Opening)
    (expected cs : List Char) : (scanName value opening expected cs).1.IsNumeric := by
  induction expected generalizing cs with
  | nil => simpa [scanName] using h
  | cons e expected ih =>
    cases cs with
    | nil => exact .broken ..
    | cons c cs =>
      unfold scanName
      split
      · exact ih cs
      · exact .broken ..

theorem isNumeric_documentOfNumber (cs : List Char) :
    (documentOfNumber (scanNumber cs)).1.IsNumeric := by
  unfold documentOfNumber
  split
  · exact .number (isNumeric_scanNumber ‹_›)
  · exact .broken ..

theorem isNumeric_documentOfScan (scan : Scan × List Char) :
    (documentOfScan scan).1.IsNumeric := by
  unfold documentOfScan
  split
  · exact .text _
  · exact .broken ..

/-- What is read with some fuel has no NaN in it. -/
structure ReadsNumeric (fuel : Nat) : Prop where
  /-- Values. -/
  value : ∀ level cs, (readValue fuel level cs).1.IsNumeric
  /-- Items. -/
  items : ∀ level cs, ∀ d ∈ (readItems fuel level cs).1, d.IsNumeric
  /-- Members. -/
  members : ∀ level cs, ∀ m ∈ (readMembers fuel level cs).1, m.2.IsNumeric

variable {fuel : Nat}

theorem ReadsNumeric.readValue (h : ReadsNumeric fuel) (level : Nat) (cs : List Char) :
    (readValue (fuel + 1) level cs).1.IsNumeric := by
  unfold Json.readValue
  split
  · exact .broken ..
  · exact isNumeric_documentOfScan _
  · split
    · exact isNumeric_markDepth (.list (by simp) _) _
    · exact isNumeric_markDepth (.list (by simp) _) _
    · exact isNumeric_markDepth (.list (h.items _ _) _) _
  · split
    · exact isNumeric_markDepth (.record (by simp) _) _
    · exact isNumeric_markDepth (.record (h.members _ _) _) _
  · exact isNumeric_scanName .null ..
  · exact isNumeric_scanName (.bool _) ..
  · exact isNumeric_scanName (.bool _) ..
  · split
    · exact isNumeric_documentOfNumber _
    · exact .broken ..

theorem ReadsNumeric.readItems (h : ReadsNumeric fuel) (level : Nat) (cs : List Char) :
    ∀ d ∈ (readItems (fuel + 1) level cs).1, d.IsNumeric := by
  have hitem := h.value level cs
  unfold Json.readItems
  dsimp only
  split
  · exact List.forall_mem_singleton.mpr hitem
  · exact List.forall_mem_singleton.mpr hitem
  · exact List.forall_mem_cons.mpr ⟨hitem, h.items _ _⟩

theorem ReadsNumeric.readMembers (h : ReadsNumeric fuel) (level : Nat) (cs : List Char) :
    ∀ m ∈ (readMembers (fuel + 1) level cs).1, m.2.IsNumeric := by
  unfold Json.readMembers
  split
  · simp
  · split
    · simp
    · dsimp only
      split
      on_goal 3 => refine List.forall_mem_cons.mpr ⟨?_, h.members _ _⟩
      on_goal 2 => refine List.forall_mem_singleton.mpr ?_
      on_goal 1 => refine List.forall_mem_singleton.mpr ?_
      -- Whatever follows the member, its value is read behind a colon, or there is none.
      all_goals
        split
        · exact h.value _ _
        · exact .broken ..
        · exact .broken ..
  · simp

theorem readsNumeric (fuel : Nat) : ReadsNumeric fuel := by
  induction fuel with
  | zero =>
    refine ⟨fun _ _ => ?_, fun _ _ => ?_, fun _ _ => ?_⟩
    · exact .broken ..
    · simp [Json.readItems]
    · simp [Json.readMembers]
  | succ fuel ih => exact ⟨ih.readValue, ih.readItems, ih.readMembers⟩

/-- **No text has a NaN in it.** -/
theorem isNumeric_ofChars (cs : List Char) : (ofChars cs).1.IsNumeric :=
  (readsNumeric _).value _ _

end Document

/-! ### Decoders -/

variable {α β : Type}

/-- What holds of all values that are decoded from documents without a NaN. -/
def Decoder.Yields (decoder : Decoder α) (P : α → Prop) : Prop :=
  ∀ d : Document, d.IsNumeric → ∀ a, decoder d = .ok a → P a

/-- What holds of all values that are read from fields without a NaN. -/
def FieldReader.Yields (reader : FieldReader α) (P : α → Prop) : Prop :=
  ∀ fields : Fields, (∀ m ∈ fields.members, m.2.IsNumeric) →
    ∀ a, reader.run fields = .ok a → P a

namespace FieldReader

theorem isNumeric_of_find? {fields : Fields} (h : ∀ m ∈ fields.members, m.2.IsNumeric)
    {name : String} {place : Nat} {d : Document} (hfound : fields.find? name = some (place, d)) :
    d.IsNumeric := by
  have hgo (members : List (Option String × Document)) (hmembers : ∀ m ∈ members, m.2.IsNumeric)
      (start : Nat) (hfound : Fields.find?.go name start members = some (place, d)) :
      d.IsNumeric := by
    induction members generalizing start with
    | nil => cases hfound
    | cons m members ih =>
      obtain ⟨hm, hrest⟩ := List.forall_mem_cons.mp hmembers
      unfold Fields.find?.go at hfound
      split at hfound
      · cases hfound
        exact hm
      · exact ih hrest _ hfound
  exact hgo fields.members h 0 hfound

variable {name : String} {decoder : Decoder α} {P : α → Prop} {Q : β → Prop}

theorem yields_read? (h : decoder.Yields P) {fields : Fields}
    (hfields : ∀ m ∈ fields.members, m.2.IsNumeric) {a : α}
    (hread : read? name decoder fields = .ok (some a)) : P a := by
  unfold read? at hread
  split at hread
  · cases hread
  · split at hread <;> cases hread
    exact h _ (isNumeric_of_find? hfields ‹_›) _ ‹_›

theorem Yields.required (h : decoder.Yields P) : (required name decoder).Yields P := by
  intro fields hfields a ha
  obtain ⟨a?, hread, ha⟩ := bind_eq_ok_iff.mp ha
  cases a? with
  | none => cases ha
  | some b =>
    cases ha
    exact yields_read? h hfields hread

theorem Yields.withDefault {default : α} (h : decoder.Yields P) (hdefault : P default) :
    (withDefault name default decoder).Yields P := by
  intro fields hfields a ha
  obtain ⟨a?, hread, ha⟩ := bind_eq_ok_iff.mp ha
  cases a? with
  | none =>
    cases ha
    exact hdefault
  | some b =>
    cases ha
    exact yields_read? h hfields hread

/-- Nothing need be known of a value that is read. -/
theorem yields_any (reader : FieldReader α) : reader.Yields fun _ => True :=
  fun _ _ _ _ => trivial

theorem Yields.mono {reader : FieldReader α} (h : reader.Yields P) {P' : α → Prop}
    (himp : ∀ a, P a → P' a) : reader.Yields P' :=
  fun fields hfields a ha => himp a (h fields hfields a ha)

theorem Yields.map {x : FieldReader α} {g : α → β} (h : x.Yields fun a => Q (g a)) :
    (g <$> x).Yields Q := by
  intro fields hfields b hb
  change (x.run fields).map g = .ok b at hb
  cases ha : x.run fields with
  | error e =>
    rw [ha] at hb
    cases hb
  | ok a =>
    rw [ha] at hb
    cases hb
    exact h fields hfields a ha

/-- The function read first has to do with all values read next. -/
theorem Yields.seq {f : FieldReader (α → β)} {x : FieldReader α} (hx : x.Yields P)
    (hf : f.Yields fun g => ∀ a, P a → Q (g a)) : (f <*> x).Yields Q := by
  intro fields hfields b hb
  change (FieldReader.seq f x).run fields = .ok b at hb
  unfold FieldReader.seq at hb
  dsimp only at hb
  split at hb
  · cases hb
    exact hf fields hfields _ ‹_› _ (hx fields hfields _ ‹_›)
  · cases hb
  · cases hb
  · cases hb

end FieldReader

namespace Decoder

variable {decoder : Decoder α} {P : α → Prop}

/-- **No double that is decoded is a NaN.** -/
theorem yields_double : double.Yields fun d => d.isNaN = false := by
  intro d hd a ha
  unfold double at ha
  split at ha
  · cases ha
    exact Double.isNaN_ofRatio ..
  · cases ha
    cases hd with
    | number h => exact h
  · cases ha

theorem Yields.items (h : decoder.Yields P) {docs : List Document}
    (hdocs : ∀ d ∈ docs, d.IsNumeric) {as : List α} (has : items decoder docs = .ok as) :
    ∀ a ∈ as, P a := by
  induction docs generalizing as with
  | nil =>
    cases has
    simp
  | cons d docs ih =>
    obtain ⟨hd, hrest⟩ := List.forall_mem_cons.mp hdocs
    obtain ⟨a, ha, has⟩ := bind_eq_ok_iff.mp has
    obtain ⟨more, hmore, has⟩ := bind_eq_ok_iff.mp has
    cases has
    exact List.forall_mem_cons.mpr ⟨h d hd a ha, ih hrest hmore⟩

theorem Yields.list (h : decoder.Yields P) :
    (Decoder.list decoder).Yields fun as => ∀ a ∈ as, P a := by
  intro d hd as has
  unfold Decoder.list at has
  split at has
  · rename_i docs cut
    obtain ⟨as', hitems, has⟩ := bind_eq_ok_iff.mp has
    cases cut <;> cases has
    cases hd with
    | list hdocs => exact h.items hdocs hitems
  · cases has
  · cases has

theorem ok_of_settle {result : Except Placed α} {further : Option Placed} {a : α}
    (h : settle result further = .ok a) : result = .ok a := by
  unfold settle at h
  split at h
  · cases result with
    | error e => cases h
    | ok b =>
      cases h
      rfl
  · split at h <;> cases h

theorem Yields.record {reader : FieldReader α} (h : reader.Yields P) :
    (Decoder.record reader).Yields P := by
  intro d hd a ha
  unfold Decoder.record recordWith at ha
  split at ha
  · cases hd with
    | record hmembers => exact h _ hmembers a (ok_of_settle ha)
  · cases hd with
    | list hitems =>
      refine h _ (fun m hm => ?_) a (ok_of_settle ha)
      obtain ⟨⟨name, d⟩, hmem, rfl⟩ := List.mem_map.mp hm
      exact hitems d (List.of_mem_zip hmem).2
  · cases ha
  · cases ha

/-- What holds of the values of a decoder holds of all that it makes of texts. -/
theorem Yields.of_decode (h : decoder.Yields P) {s : String} {a : α}
    (hs : decode decoder s = .ok a) : P a := by
  have hnumeric := Document.isNumeric_ofChars s.toList
  unfold decode at hs
  generalize Document.ofChars s.toList = read at hs hnumeric
  obtain ⟨d, rest⟩ := read
  obtain ⟨b, hdecoded, hs⟩ := bind_eq_ok_iff.mp hs
  split at hs <;> cases hs
  exact h d hnumeric _ hdecoded

end Decoder

end Json

end TripWatch
