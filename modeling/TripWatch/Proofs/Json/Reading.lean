import TripWatch.Json.Decode
import TripWatch.Proofs.Json.Numerals

/-!
# Reading what was written

The text of a value is read as one document, `Json.document`, which says what becomes of each part:
texts, truth values, lists and objects are there again, a number is what the reader makes of its
digits, and a double that is not finite is gone. No text of a value holds a fault, unless the value
is nested more deeply than a reader follows.

## Main definitions

* `Json.IsWithin` — a value is nested at most so deep
* `Json.document` — the document that a written value is read as

## Main results

* `Json.scanText_escaped` — a text is read back as itself
* `Json.readsWithin` — a written value is read to its end
* `Json.decode_render` — to decode what was written is to decode its document
-/

namespace TripWatch.Json

/-! ### Texts -/

theorem hexValue?_hexDigit {n : Nat} (h : n < 16) : hexValue? (hexDigit n) = some n := by
  have hall : ∀ n : Fin 16, hexValue? (hexDigit n) = some n.val := by decide
  exact hall ⟨n, h⟩

/-- Four characters have at least four bytes. -/
theorem four_le_utf8ByteSize (a b c d : Char) :
    4 ≤ (String.ofList [a, b, c, d]).utf8ByteSize := by
  have ha := a.utf8Size_pos
  have hb := b.utf8Size_pos
  have hc := c.utf8Size_pos
  have hd := d.utf8Size_pos
  simp only [String.ofList_cons, String.utf8ByteSize_append, String.utf8ByteSize_singleton]
  omega

/-- A control that is written by its number is read back. -/
theorem hexUnit_control {c : Char} (h : c.toNat < 32) (rest : List Char) :
    hexUnit ('0' :: '0' :: hexDigit (c.toNat / 16) :: hexDigit (c.toNat % 16) :: rest) =
      (.char c, rest) := by
  have hsize := four_le_utf8ByteSize '0' '0' (hexDigit (c.toNat / 16)) (hexDigit (c.toNat % 16))
  have hzero : hexValue? '0' = some 0 := by decide
  have hnumber : ((0 * 16 + 0) * 16 + c.toNat / 16) * 16 + c.toNat % 16 = c.toNat := by omega
  have hlow : ¬ (0xD800 ≤ c.toNat ∧ c.toNat < 0xE000) := by omega
  unfold hexUnit
  have hfirst := hexValue?_hexDigit (n := c.toNat / 16) (by omega)
  have hsecond := hexValue?_hexDigit (n := c.toNat % 16) (by omega)
  simp only [List.take_succ_cons, List.take_zero, Nat.not_lt.mpr hsize, if_false, hzero, hfirst,
    hsecond, hnumber, hlow, Char.ofNat_toNat]

/-- Whatever way a character is written, it is read back. -/
theorem textUnit_escapeChar (c : Char) (rest : List Char) :
    textUnit (escapeChar c ++ rest) = (.char c, rest) := by
  unfold escapeChar
  split
  · subst_vars
    rfl
  split
  · subst_vars
    rfl
  split
  · subst_vars
    rfl
  split
  · subst_vars
    rfl
  split
  · subst_vars
    rfl
  split
  · rename_i h
    rw [← Char.ofNat_toNat c, h]
    rfl
  split
  · rename_i h
    rw [← Char.ofNat_toNat c, h]
    rfl
  split
  · rename_i h
    exact hexUnit_control h rest
  · rename_i hquote hbackslash _ _ _ _ _ hcontrol
    simp only [List.cons_append, List.nil_append]
    unfold textUnit
    split
    · rename_i heq
      cases heq
    · rename_i heq
      exact absurd (List.cons.inj heq).1 hquote
    · rename_i heq
      exact absurd (List.cons.inj heq).1 hbackslash
    · rename_i heq
      obtain ⟨rfl, rfl⟩ := List.cons.inj heq
      rw [if_neg hcontrol]

theorem scanTextFrom_escaped (cs seen rest : List Char) {fuel : Nat} (h : cs.length < fuel) :
    scanTextFrom fuel ⟨seen, none, false⟩ (cs.flatMap escapeChar ++ '"' :: rest) =
      (.closed (some (String.ofList (seen.reverse ++ cs))), rest) := by
  induction cs generalizing seen fuel with
  | nil =>
    obtain ⟨fuel, rfl⟩ := Nat.exists_eq_succ_of_ne_zero (Nat.ne_of_gt h)
    simp [scanTextFrom, textUnit]
  | cons c cs ih =>
    obtain ⟨fuel, rfl⟩ := Nat.exists_eq_succ_of_ne_zero (Nat.ne_of_gt (Nat.zero_lt_of_lt h))
    have hfuel : cs.length < fuel := Nat.lt_of_succ_lt_succ h
    rw [List.flatMap_cons, List.append_assoc, scanTextFrom, textUnit_escapeChar]
    simp only [ScanState.push, Option.isSome_none, Bool.or_false]
    rw [ih (c :: seen) hfuel, List.reverse_cons, List.append_assoc, List.singleton_append]

/-- **A text is read back as itself.** -/
theorem scanText_escaped (s : String) (rest : List Char) :
    scanText (s.toList.flatMap escapeChar ++ '"' :: rest) = (.closed (some s), rest) := by
  have hlength : s.toList.length ≤ (s.toList.flatMap escapeChar).length := by
    induction s.toList with
    | nil => exact Nat.le_refl 0
    | cons c cs ih =>
      have hone : 1 ≤ (escapeChar c).length := by
        unfold escapeChar
        repeat' split
        all_goals simp
      rw [List.flatMap_cons, List.length_append, List.length_cons]
      omega
  have hfuel : s.toList.length < (s.toList.flatMap escapeChar ++ '"' :: rest).length + 1 := by
    rw [List.length_append]
    omega
  rw [scanText, scanTextFrom_escaped s.toList [] rest hfuel, List.reverse_nil, List.nil_append,
    String.ofList_toList]

/-! ### Documents -/

mutual

/-- The document that a written value is read as. -/
def document : Json → Document
  | .null => .null
  | .bool b => .bool b
  | .int n => .number (numberOf (intChars n))
  | .double d => if d.isFinite then .number (numberOf d.jsonChars) else .null
  | .text s => .text (some s)
  | .list items => .list (itemDocuments items) none
  | .record members => .record (memberDocuments members) .closed

/-- The documents of items. -/
def itemDocuments : List Json → List Document
  | [] => []
  | v :: rest => document v :: itemDocuments rest

/-- The documents of members. -/
def memberDocuments : List (String × Json) → List (Option String × Document)
  | [] => []
  | (k, v) :: rest => (some k, document v) :: memberDocuments rest

end

theorem itemDocuments_eq (items : List Json) : itemDocuments items = items.map document := by
  induction items with
  | nil => rfl
  | cons v rest ih => rw [itemDocuments, ih, List.map_cons]

theorem memberDocuments_eq (members : List (String × Json)) :
    memberDocuments members = members.map fun m => (some m.1, document m.2) := by
  induction members with
  | nil => rfl
  | cons m rest ih =>
    obtain ⟨k, v⟩ := m
    rw [memberDocuments, ih, List.map_cons]

/-! ### Depth -/

/-- A value that is neither a list nor an object. -/
def IsScalar : Json → Prop
  | .list _ | .record _ => False
  | _ => True

/-- A value is nested at most so deep. -/
def IsWithin : Nat → Json → Prop
  | depth + 1, .list items => ∀ v ∈ items, IsWithin depth v
  | depth + 1, .record members => ∀ m ∈ members, IsWithin depth m.2
  | 0, .list _ | 0, .record _ => False
  | _, _ => True

theorem isWithin_scalar {v : Json} (h : v.IsScalar) (depth : Nat) : v.IsWithin depth := by
  cases v with
  | list | record => exact h.elim
  | null | bool | int | double | text => cases depth <;> trivial

theorem IsWithin.mono {v : Json} {n k : Nat} (h : v.IsWithin n) (hle : n ≤ k) :
    v.IsWithin k := by
  induction n generalizing v k with
  | zero =>
    cases v with
    | list | record => exact h.elim
    | null | bool | int | double | text => exact isWithin_scalar (by trivial) k
  | succ n ih =>
    obtain ⟨k, rfl⟩ : ∃ j, k = j + 1 := ⟨k - 1, by omega⟩
    have hstep : n ≤ k := Nat.le_of_succ_le_succ hle
    cases v with
    | list items => exact fun v hv => ih (h v hv) hstep
    | record members => exact fun m hm => ih (h m hm) hstep
    | null | bool | int | double | text => exact isWithin_scalar (by trivial) (k + 1)

section Scalars

variable (depth : Nat)

@[simp] theorem isWithin_bool (b : Bool) : (Json.bool b).IsWithin depth :=
  isWithin_scalar (by trivial) depth

@[simp] theorem isWithin_double (d : Double) : (Json.double d).IsWithin depth :=
  isWithin_scalar (by trivial) depth

@[simp] theorem isWithin_text (s : String) : (Json.text s).IsWithin depth :=
  isWithin_scalar (by trivial) depth

@[simp] theorem isWithin_ofWord (n : Int64) : (ofWord n).IsWithin depth :=
  isWithin_scalar (by trivial) depth

@[simp] theorem isWithin_ofNat (n : Nat) : (ofNat n).IsWithin depth :=
  isWithin_scalar (by trivial) depth

end Scalars

section Writers

variable {α : Type} {write : α → Json} {depth : Nat}

theorem isWithin_ofOption (h : ∀ a, (write a).IsWithin depth) (value : Option α) :
    (ofOption write value).IsWithin depth := by
  cases value with
  | none => exact isWithin_scalar (by trivial) depth
  | some a => exact h a

@[simp] theorem isWithin_ofText? (s : Option String) : (ofText? s).IsWithin depth :=
  isWithin_ofOption (isWithin_text depth) s

@[simp] theorem isWithin_ofWord? (n : Option Int64) : (ofWord? n).IsWithin depth :=
  isWithin_ofOption (isWithin_ofWord depth) n

theorem isWithin_ofList (h : ∀ a, (write a).IsWithin depth) (items : List α) :
    (ofList write items).IsWithin (depth + 1) := by
  intro v hv
  obtain ⟨a, -, rfl⟩ := List.mem_map.mp hv
  exact h a

@[simp] theorem isWithin_record {members : List (String × Json)} :
    (Json.record members).IsWithin (depth + 1) ↔ ∀ m ∈ members, m.2.IsWithin depth :=
  Iff.rfl

end Writers

/-! ### Reading values -/

/-- What a number begins with is different from what else may begin there. -/
theorem ne_of_begins {c d : Char} (hc : c = '-' ∨ c.isDigit = true)
    (hd : d ≠ '-' ∧ d.isDigit = false) : c ≠ d := by
  rintro rfl
  rcases hc with h | h
  · exact hd.1 h
  · rw [h] at hd
    cases hd.2

theorem isBlank_of_begins {c : Char} (hc : c = '-' ∨ c.isDigit = true) : isBlank c = false := by
  have hne : ∀ d : Char, d ≠ '-' ∧ d.isDigit = false → c ≠ d := fun d => ne_of_begins hc
  simp [isBlank, hne ' ' (by decide), hne '\n' (by decide), hne '\t' (by decide),
    hne '\r' (by decide)]

/-- No value begins with a blank, nor with a bracket that closes a list. -/
theorem exists_chars_eq_cons (v : Json) :
    ∃ c cs, v.chars = c :: cs ∧ isBlank c = false ∧ c ≠ ']' := by
  have hnumeral : ∀ {cs : List Char}, (∃ n : Numeral, n.chars = cs) →
      ∃ c rest, cs = c :: rest ∧ isBlank c = false ∧ c ≠ ']' := by
    rintro cs ⟨n, rfl⟩
    obtain ⟨c, rest, hchars, hc⟩ := n.exists_chars_eq_cons
    exact ⟨c, rest, hchars, isBlank_of_begins hc, ne_of_begins hc (by decide)⟩
  cases v with
  | null => exact ⟨'n', _, by rw [chars], by decide, by decide⟩
  | bool b => cases b <;> exact ⟨_, _, by rw [chars], by decide, by decide⟩
  | int n =>
    rw [chars]
    exact hnumeral (exists_numeral_chars_eq_intChars n)
  | double d =>
    rw [chars]
    split
    · exact hnumeral (exists_numeral_chars_eq_jsonChars d)
    · exact ⟨_, _, rfl, by decide, by decide⟩
  | text s => exact ⟨'"', _, by rw [chars, quote]; rfl, by decide, by decide⟩
  | list items => exact ⟨'[', _, by rw [chars], by decide, by decide⟩
  | record members => exact ⟨'\x7b', _, by rw [chars], by decide, by decide⟩

theorem one_le_length_chars (v : Json) : 1 ≤ v.chars.length := by
  obtain ⟨c, cs, hchars, -⟩ := exists_chars_eq_cons v
  rw [hchars, List.length_cons]
  omega

/-- What begins like a number is read as one. -/
theorem readValue_numeral {cs rest : List Char} (hcs : ∃ n : Numeral, n.chars = cs)
    (h : EndsNumber rest) (fuel level : Nat) :
    readValue (fuel + 1) level (cs ++ rest) = (.number (numberOf cs), rest) := by
  have hscan := scanNumber_append hcs h
  obtain ⟨n, rfl⟩ := hcs
  obtain ⟨c, more, hchars, hc⟩ := n.exists_chars_eq_cons
  rw [hchars, List.cons_append] at hscan ⊢
  have hne : ∀ d : Char, d ≠ '-' ∧ d.isDigit = false → c ≠ d := fun d => ne_of_begins hc
  have hblank : skipBlank (c :: (more ++ rest)) = c :: (more ++ rest) := by
    simp [skipBlank, isBlank_of_begins hc]
  unfold readValue
  rw [hblank]
  split
  · rename_i heq
    cases heq
  · rename_i heq
    exact absurd (List.cons.inj heq).1 (hne '"' (by decide))
  · rename_i heq
    exact absurd (List.cons.inj heq).1 (hne '[' (by decide))
  · rename_i heq
    exact absurd (List.cons.inj heq).1 (hne '\x7b' (by decide))
  · rename_i heq
    exact absurd (List.cons.inj heq).1 (hne 'n' (by decide))
  · rename_i heq
    exact absurd (List.cons.inj heq).1 (hne 't' (by decide))
  · rename_i heq
    exact absurd (List.cons.inj heq).1 (hne 'f' (by decide))
  · rename_i heq
    rw [← heq, ← (List.cons.inj heq).1, if_pos hc, hscan, documentOfNumber]

theorem skipBlank_cons {c : Char} (h : isBlank c = false) (cs : List Char) :
    skipBlank (c :: cs) = c :: cs := by
  simp [skipBlank, h]

theorem readValue_text (s : String) (rest : List Char) (fuel level : Nat) :
    readValue (fuel + 1) level ((text s).chars ++ rest) = (.text (some s), rest) := by
  have hscan := scanText_escaped s rest
  rw [chars, quote, List.cons_append, List.cons_append, List.append_assoc, List.singleton_append,
    readValue, skipBlank_cons (by decide)]
  simp only [hscan, documentOfScan]

theorem readValue_scalar {v : Json} (hv : v.IsScalar) {rest : List Char} (h : EndsNumber rest)
    (fuel level : Nat) : readValue (fuel + 1) level (v.chars ++ rest) = (v.document, rest) := by
  cases v with
  | null => simp [chars, document, readValue, skipBlank_cons, isBlank, scanName]
  | bool b =>
    cases b <;> simp [chars, document, readValue, skipBlank_cons, isBlank, scanName]
  | int n =>
    rw [chars, document]
    exact readValue_numeral (exists_numeral_chars_eq_intChars n) h fuel level
  | double d =>
    rw [chars, document]
    split
    · exact readValue_numeral (exists_numeral_chars_eq_jsonChars d) h fuel level
    · simp [readValue, skipBlank_cons, isBlank, scanName]
  | text s => exact readValue_text s rest fuel level
  | list items | record members => exact hv.elim

/-! ### Reading lists and objects -/

theorem nextAfter_comma (close : Char) (cs : List Char) :
    nextAfter close (',' :: cs) = .another cs := by
  rw [nextAfter, skipBlank_cons (by decide)]
  simp

theorem nextAfter_close {close : Char} (hclose : close = ']' ∨ close = '\x7d') (cs : List Char) :
    nextAfter close (close :: cs) = .closed cs := by
  rcases hclose with rfl | rfl <;> simp [nextAfter, skipBlank_cons, isBlank]

theorem endsNumber_cons {c : Char} (hc : c = ',' ∨ c = ']' ∨ c = '\x7d') (cs : List Char) :
    EndsNumber (c :: cs) := by
  intro d hd
  obtain rfl : c = d := Option.some.inj hd
  rcases hc with rfl | rfl | rfl <;> decide

/-- Values that are nested at most so deep are read to their end, with two units of fuel for each
character. -/
def ReadsWithin (depth : Nat) : Prop :=
  ∀ v : Json, v.IsWithin depth → ∀ fuel level rest, level + depth < depthLimit →
    2 * v.chars.length ≤ fuel → EndsNumber rest →
      readValue fuel level (v.chars ++ rest) = (v.document, rest)

section Nested

variable {depth level : Nat}

theorem itemsChars_cons_cons (v w : Json) (items : List Json) :
    itemsChars (v :: w :: items) = v.chars ++ ',' :: itemsChars (w :: items) :=
  itemsChars.eq_3 v (w :: items) (by simp)

theorem membersChars_cons_cons (k : String) (v : Json) (m : String × Json)
    (members : List (String × Json)) :
    membersChars ((k, v) :: m :: members) =
      quote k ++ ':' :: v.chars ++ ',' :: membersChars (m :: members) :=
  membersChars.eq_3 k v (m :: members) (by simp)

theorem ReadsWithin.readItems (h : ReadsWithin depth) (hlevel : level + depth < depthLimit)
    (items : List Json) (v : Json) (hitems : ∀ w ∈ v :: items, w.IsWithin depth) (fuel : Nat)
    (hfuel : 2 * (itemsChars (v :: items)).length ≤ fuel) (rest : List Char) :
    Json.readItems fuel level (itemsChars (v :: items) ++ rest) =
      ((v :: items).map document, none, rest) := by
  induction items generalizing v fuel with
  | nil =>
    rw [itemsChars, List.length_append, List.length_singleton] at hfuel
    obtain ⟨fuel, rfl⟩ : ∃ k, fuel = k + 1 := ⟨fuel - 1, by omega⟩
    have hread := h v (hitems v (by simp)) fuel level (']' :: rest) hlevel (by omega)
      (endsNumber_cons (by simp) rest)
    rw [itemsChars, List.append_assoc, List.singleton_append, Json.readItems, hread]
    simp only [nextAfter_close (.inl rfl)]
    rfl
  | cons w items ih =>
    rw [itemsChars_cons_cons, List.length_append, List.length_cons] at hfuel
    obtain ⟨fuel, rfl⟩ : ∃ k, fuel = k + 1 := ⟨fuel - 1, by omega⟩
    have hread := h v (hitems v (by simp)) fuel level (',' :: (itemsChars (w :: items) ++ rest))
      hlevel (by omega) (endsNumber_cons (by simp) _)
    have hmore := ih w (fun u hu => hitems u (List.mem_cons_of_mem v hu)) fuel (by omega)
    rw [itemsChars_cons_cons, List.append_assoc, List.cons_append, Json.readItems, hread]
    simp only [nextAfter_comma, hmore]
    rfl

/-- What is read from a member on, by what comes after it. -/
def membersFrom (fuel level : Nat) (member : Option String × Document) :
    Next → List (Option String × Document) × Ending × List Char
  | .closed rest => ([member], .closed, rest)
  | .cut f => ([member], .cut f, [])
  | .another rest =>
    let (members, ending, rest) := Json.readMembers fuel level rest
    (member :: members, ending, rest)

/-- A member is read to its end. -/
theorem ReadsWithin.readMember (h : ReadsWithin depth) (hlevel : level + depth < depthLimit)
    (k : String) {v : Json} (hv : v.IsWithin depth) {fuel : Nat}
    (hfuel : 2 * v.chars.length ≤ fuel) {rest : List Char} (hrest : EndsNumber rest) :
    Json.readMembers (fuel + 1) level (quote k ++ ':' :: v.chars ++ rest) =
      membersFrom fuel level (some k, v.document) (nextAfter '\x7d' rest) := by
  have hkey := scanText_escaped k (':' :: (v.chars ++ rest))
  have hread := h v hv fuel level rest hlevel hfuel hrest
  rw [quote, Json.readMembers]
  simp only [List.cons_append, List.append_assoc, List.nil_append,
    skipBlank_cons (c := '"') (by decide), skipBlank_cons (c := ':') (by decide), hkey, hread]
  cases nextAfter '\x7d' rest <;> rfl

theorem ReadsWithin.readMembers (h : ReadsWithin depth) (hlevel : level + depth < depthLimit)
    (members : List (String × Json)) (k : String) (v : Json)
    (hmembers : ∀ m ∈ (k, v) :: members, m.2.IsWithin depth) (fuel : Nat)
    (hfuel : 2 * (membersChars ((k, v) :: members)).length ≤ fuel) (rest : List Char) :
    Json.readMembers fuel level (membersChars ((k, v) :: members) ++ rest) =
      (((k, v) :: members).map fun m => (some m.1, m.2.document), .closed, rest) := by
  induction members generalizing k v fuel with
  | nil =>
    rw [membersChars] at hfuel ⊢
    simp only [List.length_append, List.length_cons, List.length_nil] at hfuel
    obtain ⟨fuel, rfl⟩ : ∃ j, fuel = j + 1 := ⟨fuel - 1, by omega⟩
    have hv : v.IsWithin depth := hmembers (k, v) (by simp)
    rw [List.append_assoc _ _ rest, List.singleton_append,
      h.readMember hlevel k hv (by omega) (endsNumber_cons (by simp) rest)]
    rw [nextAfter_close (.inr rfl)]
    rfl
  | cons m members ih =>
    obtain ⟨k', v'⟩ := m
    rw [membersChars_cons_cons] at hfuel ⊢
    simp only [List.length_append, List.length_cons] at hfuel
    obtain ⟨fuel, rfl⟩ : ∃ j, fuel = j + 1 := ⟨fuel - 1, by omega⟩
    have hmore := ih k' v' (fun u hu => hmembers u (List.mem_cons_of_mem (k, v) hu)) fuel
      (by omega)
    have hv : v.IsWithin depth := hmembers (k, v) (by simp)
    rw [List.append_assoc _ _ rest, List.cons_append,
      h.readMember hlevel k hv (by omega) (endsNumber_cons (by simp) _), nextAfter_comma,
      membersFrom, hmore]
    rfl

end Nested

theorem markDepth_of_lt {level : Nat} (h : level < depthLimit) (d : Document) :
    markDepth level d = d :=
  if_neg (Nat.not_le.mpr h)

theorem ReadsWithin.readList {depth level fuel : Nat} (h : ReadsWithin depth)
    (hlevel : level + (depth + 1) < depthLimit) {items : List Json}
    (hitems : ∀ w ∈ items, w.IsWithin depth) (hfuel : 2 * (list items).chars.length ≤ fuel)
    (rest : List Char) :
    readValue fuel level ((list items).chars ++ rest) = ((list items).document, rest) := by
  rw [chars, List.length_cons] at hfuel
  obtain ⟨fuel, rfl⟩ : ∃ k, fuel = k + 1 := ⟨fuel - 1, by omega⟩
  have hmark := markDepth_of_lt (show level + 1 < depthLimit by omega)
  rw [chars, document, itemDocuments_eq, List.cons_append, readValue,
    skipBlank_cons (by decide)]
  cases items with
  | nil =>
    rw [itemsChars, List.singleton_append]
    simp only [skipBlank_cons (c := ']') (by decide), hmark, List.map_nil]
  | cons v items =>
    have hread := h.readItems (show level + 1 + depth < depthLimit by omega) items v hitems fuel
      (by omega) rest
    -- The first item does not begin like the end of the list.
    obtain ⟨c, cs, hchars, hblank, hbracket⟩ := exists_chars_eq_cons v
    have hbegin : ∃ more, itemsChars (v :: items) ++ rest = c :: more := by
      cases items <;> simp [itemsChars, hchars]
    obtain ⟨more, hmore⟩ := hbegin
    rw [hmore] at hread ⊢
    simp only [skipBlank_cons hblank]
    split
    · rename_i heq
      cases heq
    · rename_i heq
      exact absurd (List.cons.inj heq).1 hbracket
    · simp only [hread, hmark]

theorem ReadsWithin.readRecord {depth level fuel : Nat} (h : ReadsWithin depth)
    (hlevel : level + (depth + 1) < depthLimit) {members : List (String × Json)}
    (hmembers : ∀ m ∈ members, m.2.IsWithin depth)
    (hfuel : 2 * (record members).chars.length ≤ fuel) (rest : List Char) :
    readValue fuel level ((record members).chars ++ rest) = ((record members).document, rest) := by
  rw [chars, List.length_cons] at hfuel
  obtain ⟨fuel, rfl⟩ : ∃ k, fuel = k + 1 := ⟨fuel - 1, by omega⟩
  have hmark := markDepth_of_lt (show level + 1 < depthLimit by omega)
  rw [chars, document, memberDocuments_eq, List.cons_append, readValue,
    skipBlank_cons (by decide)]
  cases members with
  | nil =>
    rw [membersChars, List.singleton_append]
    simp only [skipBlank_cons (c := '\x7d') (by decide), hmark, List.map_nil]
  | cons m members =>
    obtain ⟨k, v⟩ := m
    have hread := h.readMembers (show level + 1 + depth < depthLimit by omega) members k v
      hmembers fuel (by omega) rest
    have hbegin : ∃ more, membersChars ((k, v) :: members) ++ rest = '"' :: more := by
      cases members <;> simp [membersChars, quote]
    obtain ⟨more, hmore⟩ := hbegin
    rw [hmore] at hread ⊢
    simp only [skipBlank_cons (c := '"') (by decide)]
    split
    · rename_i heq
      exact absurd (List.cons.inj heq).1 (by decide)
    · simp only [hread, hmark]

theorem readsWithin (depth : Nat) : ReadsWithin depth := by
  have hscalar : ∀ v : Json, v.IsScalar → ∀ fuel level rest, 2 * v.chars.length ≤ fuel →
      EndsNumber rest → readValue fuel level (v.chars ++ rest) = (v.document, rest) := by
    intro v hv fuel level rest hfuel hrest
    have hlength := one_le_length_chars v
    obtain ⟨fuel, rfl⟩ : ∃ k, fuel = k + 1 := ⟨fuel - 1, by omega⟩
    exact readValue_scalar hv hrest fuel level
  induction depth with
  | zero =>
    intro v hv fuel level rest _ hfuel hrest
    cases v with
    | list items | record members => exact hv.elim
    | null | bool b | int n | double d | text s =>
      exact hscalar _ (by trivial) fuel level rest hfuel hrest
  | succ depth ih =>
    intro v hv fuel level rest hlevel hfuel hrest
    cases v with
    | list items => exact ih.readList hlevel hv hfuel rest
    | record members => exact ih.readRecord hlevel hv hfuel rest
    | null | bool b | int n | double d | text s =>
      exact hscalar _ (by trivial) fuel level rest hfuel hrest

/-- **To decode what was written is to decode its document.** -/
theorem decode_render {α : Type} (decoder : Decoder α) {v : Json} {depth : Nat}
    (hdepth : depth < depthLimit) (h : v.IsWithin depth) :
    decode decoder v.render = decoder v.document := by
  have hread := readsWithin depth v h (2 * v.chars.length + 2) 0 [] (by omega) (by omega)
    endsNumber_nil
  rw [List.append_nil] at hread
  rw [decode, render, String.toList_ofList, Document.ofChars, hread]
  dsimp only
  cases decoder v.document <;> rfl

end TripWatch.Json
