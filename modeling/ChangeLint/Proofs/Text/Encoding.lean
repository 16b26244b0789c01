import ChangeLint.Text.Utf8

/-! # Bytes of a text are read back

The bytes of a text have no gap, and reading them gives the text.  The reader takes one byte at a
time: the first byte of a character says how many follow, and each of these adds six bits.

* `unitsFrom_tail_last` and `unitsFrom_tail_more` are the step for a byte that continues a
  character.
* `unitsFrom_utf8EncodeChar` reads one character, `units_encode` a text.
* `encode_suffix_iff` says that bytes at the end of a text are those of its last characters. -/

namespace ChangeLint.Text.Utf8

/-! ## Section 1: Bytes that continue a character -/

/-- The byte that carries the last six bits of a number. -/
def tail (n : Nat) : UInt8 := UInt8.ofNat (n % 64 + 0x80)

theorem toNat_tail (n : Nat) : (tail n).toNat = n % 64 + 0x80 :=
  UInt8.toNat_ofNat_of_lt' (by show _ < 256; omega)

/-- What such a byte adds to the value of a character. -/
theorem toNat_tail_mod (n : Nat) : (tail n).toNat % 64 = n % 64 := by
  rw [toNat_tail]
  omega

/-- Is the number of a continuing byte between the bounds of a character begun? -/
def Begun.Admits (begun : Begun) (n : Nat) : Prop :=
  begun.low.toNat ≤ n % 64 + 0x80 ∧ n % 64 + 0x80 ≤ begun.high.toNat

/-- The bounds that every byte behind the second one has admit all continuing bytes. -/
theorem admits_of_full (value after n : Nat) : Begun.Admits ⟨value, 0x80, 0xBF, after⟩ n := by
  show 128 ≤ n % 64 + 0x80 ∧ n % 64 + 0x80 ≤ 191
  omega

section

variable {begun : Begun} {n : Nat}

theorem Begun.Admits.bounds (h : begun.Admits n) : begun.low ≤ tail n ∧ tail n ≤ begun.high := by
  rw [UInt8.le_iff_toNat_le, UInt8.le_iff_toNat_le, toNat_tail]
  exact h

/-- The last byte of a character ends it. -/
theorem unitsFrom_tail_last (h : begun.Admits n) (hafter : begun.after = 0) (rest : List UInt8) :
    unitsFrom (some begun) (tail n :: rest)
      = some (Char.ofNat (begun.value * 64 + n % 64)) :: unitsFrom none rest := by
  -- The byte is within the bounds, and no byte is awaited behind it.
  rw [unitsFrom, step, if_pos h.bounds, hafter, toNat_tail_mod]
  rfl

/-- Every other byte that continues a character adds to its value. -/
theorem unitsFrom_tail_more (h : begun.Admits n) {after : Nat} (hafter : begun.after = after + 1)
    (rest : List UInt8) :
    unitsFrom (some begun) (tail n :: rest)
      = unitsFrom (some ⟨begun.value * 64 + n % 64, 0x80, 0xBF, after⟩) rest := by
  rw [unitsFrom, step, if_pos h.bounds, hafter, toNat_tail_mod]
  rfl

end

/-! ## Section 2: First bytes -/

/-- A second byte is within its bounds if it is no overlong form, no surrogate, and not past the
last code point. -/
theorem admits_ofFirst {first : UInt8} {value after n : Nat}
    (hE0 : first.toNat = 0xE0 → 0x20 ≤ n % 64) (hED : first.toNat = 0xED → n % 64 ≤ 0x1F)
    (hF0 : first.toNat = 0xF0 → 0x10 ≤ n % 64) (hF4 : first.toNat = 0xF4 → n % 64 ≤ 0x0F) :
    (Begun.ofFirst first value after).Admits n := by
  have heq (b : UInt8) : first = b ↔ first.toNat = b.toNat := UInt8.toNat_inj.symm
  unfold Begun.Admits Begun.ofFirst secondBounds
  simp only [heq]
  -- One case for each first byte that restricts the second one, and one for all others.
  split
  · next h => exact ⟨by have := hE0 h; show 160 ≤ _; omega, by show _ ≤ 191; omega⟩
  split
  · next h => exact ⟨by show 128 ≤ _; omega, by have := hED h; show _ ≤ 159; omega⟩
  split
  · next h => exact ⟨by have := hF0 h; show 144 ≤ _; omega, by show _ ≤ 191; omega⟩
  split
  · next h => exact ⟨by show 128 ≤ _; omega, by have := hF4 h; show _ ≤ 143; omega⟩
  · exact ⟨by show 128 ≤ _; omega, by show _ ≤ 191; omega⟩

/-- The first byte of two begins a character. -/
theorem unitsFrom_first_two {n : Nat} (hlow : 2 ≤ n) (hhigh : n < 32) (rest : List UInt8) :
    unitsFrom none (UInt8.ofNat (n + 0xC0) :: rest)
      = unitsFrom (some (.ofFirst (UInt8.ofNat (n + 0xC0)) n 0)) rest := by
  have hbyte : (UInt8.ofNat (n + 0xC0)).toNat = n + 0xC0 :=
    UInt8.toNat_ofNat_of_lt' (by show _ < 256; omega)
  have hvalue : (n + 0xC0) % 32 = n := by omega
  rw [unitsFrom, step, first]
  simp only [UInt8.lt_iff_toNat_lt, UInt8.le_iff_toNat_le, hbyte, hvalue]
  -- It is no byte of its own, and it is in the range of those that one byte follows.
  rw [if_neg (by show ¬ n + 192 < 128; omega),
    if_pos (by show 194 ≤ n + 192 ∧ n + 192 ≤ 223; omega)]
  rfl

/-- The first byte of three begins a character. -/
theorem unitsFrom_first_three {n : Nat} (hhigh : n < 16) (rest : List UInt8) :
    unitsFrom none (UInt8.ofNat (n + 0xE0) :: rest)
      = unitsFrom (some (.ofFirst (UInt8.ofNat (n + 0xE0)) n 1)) rest := by
  have hbyte : (UInt8.ofNat (n + 0xE0)).toNat = n + 0xE0 :=
    UInt8.toNat_ofNat_of_lt' (by show _ < 256; omega)
  have hvalue : (n + 0xE0) % 16 = n := by omega
  rw [unitsFrom, step, first]
  simp only [UInt8.lt_iff_toNat_lt, UInt8.le_iff_toNat_le, hbyte, hvalue]
  rw [if_neg (by show ¬ n + 224 < 128; omega),
    if_neg (by show ¬ (194 ≤ n + 224 ∧ n + 224 ≤ 223); omega),
    if_pos (by show 224 ≤ n + 224 ∧ n + 224 ≤ 239; omega)]
  rfl

/-- The first byte of four begins a character. -/
theorem unitsFrom_first_four {n : Nat} (hhigh : n ≤ 4) (rest : List UInt8) :
    unitsFrom none (UInt8.ofNat (n + 0xF0) :: rest)
      = unitsFrom (some (.ofFirst (UInt8.ofNat (n + 0xF0)) n 2)) rest := by
  have hbyte : (UInt8.ofNat (n + 0xF0)).toNat = n + 0xF0 :=
    UInt8.toNat_ofNat_of_lt' (by show _ < 256; omega)
  have hvalue : (n + 0xF0) % 8 = n := by omega
  rw [unitsFrom, step, first]
  simp only [UInt8.lt_iff_toNat_lt, UInt8.le_iff_toNat_le, hbyte, hvalue]
  rw [if_neg (by show ¬ n + 240 < 128; omega),
    if_neg (by show ¬ (194 ≤ n + 240 ∧ n + 240 ≤ 223); omega),
    if_neg (by show ¬ (224 ≤ n + 240 ∧ n + 240 ≤ 239); omega),
    if_pos (by show 240 ≤ n + 240 ∧ n + 240 ≤ 244; omega)]
  rfl

/-! ## Section 3: Characters and texts -/

/-! A character by the number of its bytes; its code point is put together again from them. -/

theorem unitsFrom_one {v : Nat} (h : v ≤ 0x7F) (rest : List UInt8) :
    unitsFrom none (UInt8.ofNat v :: rest) = some (Char.ofNat v) :: unitsFrom none rest := by
  have hbyte : (UInt8.ofNat v).toNat = v := UInt8.toNat_ofNat_of_lt' (by show _ < 256; omega)
  have hlow : UInt8.ofNat v < 0x80 := by
    rw [UInt8.lt_iff_toNat_lt, hbyte]
    show v < 128
    omega
  rw [unitsFrom, step, first, if_pos hlow, hbyte]
  rfl

theorem unitsFrom_two {v : Nat} (hlow : 0x80 ≤ v) (hhigh : v ≤ 0x7FF) (rest : List UInt8) :
    unitsFrom none (UInt8.ofNat (v / 64 % 32 + 0xC0) :: tail v :: rest)
      = some (Char.ofNat v) :: unitsFrom none rest := by
  have hfirst : v / 64 % 32 = v / 64 := by omega
  have hbyte : (UInt8.ofNat (v / 64 + 0xC0)).toNat = v / 64 + 0xC0 :=
    UInt8.toNat_ofNat_of_lt' (by show _ < 256; omega)
  have hadmits : (Begun.ofFirst (UInt8.ofNat (v / 64 + 0xC0)) (v / 64) 0).Admits v := by
    apply admits_ofFirst <;> rw [hbyte] <;> omega
  -- The bits of both bytes put together are the code point again.
  have hvalue : v / 64 * 64 + v % 64 = v := by omega
  rw [hfirst, unitsFrom_first_two (by omega) (by omega), unitsFrom_tail_last hadmits rfl]
  show some (Char.ofNat (v / 64 * 64 + v % 64)) :: _ = _
  rw [hvalue]

theorem unitsFrom_three {v : Nat} (hlow : 0x800 ≤ v) (hhigh : v ≤ 0xFFFF)
    (hvalid : v < 0xD800 ∨ 0xDFFF < v) (rest : List UInt8) :
    unitsFrom none (UInt8.ofNat (v / 4096 % 16 + 0xE0) :: tail (v / 64) :: tail v :: rest)
      = some (Char.ofNat v) :: unitsFrom none rest := by
  have hfirst : v / 4096 % 16 = v / 4096 := by omega
  have hbyte : (UInt8.ofNat (v / 4096 + 0xE0)).toNat = v / 4096 + 0xE0 :=
    UInt8.toNat_ofNat_of_lt' (by show _ < 256; omega)
  -- The second byte is within its bounds because the code point needs three bytes and is no
  -- surrogate.
  have hadmits : (Begun.ofFirst (UInt8.ofNat (v / 4096 + 0xE0)) (v / 4096) 1).Admits
      (v / 64) := by
    apply admits_ofFirst <;> rw [hbyte] <;> omega
  have hvalue : (v / 4096 * 64 + v / 64 % 64) * 64 + v % 64 = v := by omega
  rw [hfirst, unitsFrom_first_three (by omega), unitsFrom_tail_more hadmits rfl,
    unitsFrom_tail_last (admits_of_full _ _ _) rfl]
  show some (Char.ofNat ((v / 4096 * 64 + v / 64 % 64) * 64 + v % 64)) :: _ = _
  rw [hvalue]

theorem unitsFrom_four {v : Nat} (hlow : 0x10000 ≤ v) (hhigh : v < 0x110000)
    (rest : List UInt8) :
    unitsFrom none (UInt8.ofNat (v / 262144 % 8 + 0xF0)
        :: tail (v / 4096) :: tail (v / 64) :: tail v :: rest)
      = some (Char.ofNat v) :: unitsFrom none rest := by
  have hfirst : v / 262144 % 8 = v / 262144 := by omega
  have hbyte : (UInt8.ofNat (v / 262144 + 0xF0)).toNat = v / 262144 + 0xF0 :=
    UInt8.toNat_ofNat_of_lt' (by show _ < 256; omega)
  -- Here the code point needs four bytes and is not past the last one.
  have hadmits : (Begun.ofFirst (UInt8.ofNat (v / 262144 + 0xF0)) (v / 262144) 2).Admits
      (v / 4096) := by
    apply admits_ofFirst <;> rw [hbyte] <;> omega
  have hvalue : ((v / 262144 * 64 + v / 4096 % 64) * 64 + v / 64 % 64) * 64 + v % 64 = v := by
    omega
  rw [hfirst, unitsFrom_first_four (by omega), unitsFrom_tail_more hadmits rfl,
    unitsFrom_tail_more (admits_of_full _ _ _) rfl,
    unitsFrom_tail_last (admits_of_full _ _ _) rfl]
  show some (Char.ofNat (((v / 262144 * 64 + v / 4096 % 64) * 64 + v / 64 % 64) * 64 + v % 64))
    :: _ = _
  rw [hvalue]

/-- The bytes of a character are read back as it. -/
theorem unitsFrom_utf8EncodeChar (c : Char) (rest : List UInt8) :
    unitsFrom none (String.utf8EncodeChar c ++ rest) = some c :: unitsFrom none rest := by
  have hvalid : c.toNat < 0xD800 ∨ 0xDFFF < c.toNat ∧ c.toNat < 0x110000 := c.valid
  have hchar : some c :: unitsFrom none rest
      = some (Char.ofNat c.toNat) :: unitsFrom none rest := by
    rw [Char.ofNat_toNat]
  have hval : c.val.toNat = c.toNat := rfl
  unfold String.utf8EncodeChar
  rw [hchar]
  simp only [hval]
  -- The encoding splits by the size of the code point, and so does the proof.
  split
  · next hone => exact unitsFrom_one hone rest
  split
  · next hone htwo => exact unitsFrom_two (by omega) htwo rest
  split
  · next hone htwo hthree => exact unitsFrom_three (by omega) hthree (by omega) rest
  · next hone htwo hthree => exact unitsFrom_four (by omega) (by omega) rest

theorem encode_cons (c : Char) (cs : List Char) :
    encode (c :: cs) = String.utf8EncodeChar c ++ encode cs := List.flatMap_cons

/-- The bytes of a text have no gap. -/
theorem units_encode (cs : List Char) : units (encode cs) = cs.map some := by
  unfold units
  induction cs with
  | nil => rfl
  | cons c cs ih =>
    rw [encode_cons, unitsFrom_utf8EncodeChar, ih, List.map_cons]

/-- The bytes of a text are read back as it. -/
theorem lossy_encode (cs : List Char) : lossy (encode cs) = cs := by
  unfold lossy
  rw [units_encode, List.map_map]
  exact List.map_id cs

/-! ## Section 4: Ends of texts -/

/-- Texts with the same bytes are the same. -/
theorem encode_inj {a b : List Char} : encode a = encode b ↔ a = b := by
  constructor
  · intro h
    rw [← lossy_encode a, h, lossy_encode]
  · exact congrArg encode

/-- The bytes of a text start with the first byte of a character. -/
theorem isUTF8FirstByte_head_encode {cs : List Char} {b : UInt8} (h : (encode cs).head? = some b) :
    b.IsUTF8FirstByte := by
  cases cs with
  | nil => cases h
  | cons c cs =>
    have hpos : 0 < (String.utf8EncodeChar c).length :=
      List.length_pos_iff.mpr String.utf8EncodeChar_ne_nil
    rw [encode_cons, List.head?_eq_getElem?, List.getElem?_append_left hpos,
      List.getElem?_eq_getElem hpos] at h
    obtain rfl := Option.some.inj h
    exact UInt8.isUTF8FirstByte_getElem_utf8EncodeChar.mpr rfl

/-- No byte of a character but its first one is the first byte of a character. -/
theorem eq_nil_of_utf8EncodeChar_eq_append {c : Char} {front back : List UInt8} {b : UInt8}
    (h : String.utf8EncodeChar c = front ++ b :: back) (hb : b.IsUTF8FirstByte) : front = [] := by
  have hlt : front.length < (String.utf8EncodeChar c).length := by
    rw [h, List.length_append, List.length_cons]
    omega
  -- The byte stands in the encoding at the place behind the front, and only the first place has
  -- one of this kind.
  have hget : (String.utf8EncodeChar c)[front.length] = b := by
    simp [h]
  rw [← hget] at hb
  exact List.length_eq_zero_iff.mp (UInt8.isUTF8FirstByte_getElem_utf8EncodeChar.mp hb)

/-- The bytes of a text end in those of another one only if the text itself ends in it: bytes are
never taken up in the middle of a character. -/
theorem encode_suffix_iff {a b : List Char} : encode a <:+ encode b ↔ a <:+ b := by
  constructor
  · intro h
    -- By induction on the longer text: either the whole of it, or its rest, ends so.
    induction b with
    | nil =>
      have hnil : encode a = encode [] := List.suffix_nil.mp h
      exact encode_inj.mp hnil ▸ List.suffix_rfl
    | cons c cs ih =>
      obtain ⟨before, hbefore⟩ := h
      rw [encode_cons] at hbefore
      rcases List.append_eq_append_iff.mp hbefore with ⟨back, hc, ha⟩ | ⟨between, _, hcs⟩
      -- The bytes begin behind the first character or at one of its bytes, and of these only the
      -- first one can begin a text.
      · cases hback : back with
        | nil =>
          rw [hback, List.nil_append, encode_inj] at ha
          exact ha ▸ List.suffix_cons c cs
        | cons first rest =>
          rw [hback] at hc ha
          have hhead : (encode a).head? = some first := congrArg List.head? ha
          have hfirst : first.IsUTF8FirstByte := isUTF8FirstByte_head_encode hhead
          rw [eq_nil_of_utf8EncodeChar_eq_append hc hfirst, List.nil_append] at hc
          rw [← hc, ← encode_cons, encode_inj] at ha
          exact ha ▸ List.suffix_rfl
      · exact (ih ⟨between, hcs.symm⟩).trans (List.suffix_cons c cs)
  · rintro ⟨before, rfl⟩
    rw [encode_append]
    exact List.suffix_append _ _

end ChangeLint.Text.Utf8
