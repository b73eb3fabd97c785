import CallScript.Text.Utf8

/-!
# Reading UTF-8 back

The automaton that reads bytes takes up the bytes of a character as that character and stands
between two characters behind them. So the bytes of a text are read back as the text, whether
malformed pieces are replaced or refused.
-/

namespace CallScript.Text.Utf8

/-- A byte that begins a longer character leads into it. -/
theorem scanFrom_start_cons {b : UInt8} {s : State} (hb : ¬ b.toNat < 0x80)
    (hlead : State.lead? b.toNat = some s) (rest : List UInt8) :
    scanFrom .start (b :: rest) = scanFrom s rest := by
  simp [scanFrom, State.step, State.begin, hb, hlead]

/-- A byte in its interval that is not the last one of its character. -/
theorem scanFrom_inside_succ {more low high value : Nat} {b : UInt8} (hlow : low ≤ b.toNat)
    (hhigh : b.toNat ≤ high) (rest : List UInt8) :
    scanFrom (.inside (more + 1) low high value) (b :: rest) =
      scanFrom (.inside more 0x80 0xBF (value * 64 + (b.toNat - 0x80))) rest := by
  simp [scanFrom, State.step, hlow, hhigh]

/-- A byte in its interval that is the last one of its character. -/
theorem scanFrom_inside_zero {low high value : Nat} {b : UInt8} (hlow : low ≤ b.toNat)
    (hhigh : b.toNat ≤ high) (rest : List UInt8) :
    scanFrom (.inside 0 low high value) (b :: rest) =
      some (Char.ofNat (value * 64 + (b.toNat - 0x80))) :: scanFrom .start rest := by
  simp [scanFrom, State.step, hlow, hhigh]

/-- The number of a byte that is given as a small number. -/
theorem toNat_byte {n : Nat} (h : n < 256) : (UInt8.ofNat n).toNat = n := by
  rw [UInt8.toNat_ofNat']
  exact Nat.mod_eq_of_lt h

/-- A character of one byte is read back. -/
theorem scanFrom_ascii {c : Char} (h : c.toNat ≤ 0x7f) (rest : List UInt8) :
    scanFrom .start (UInt8.ofNat c.toNat :: rest) = some c :: scanFrom .start rest := by
  have hbyte : (UInt8.ofNat c.toNat).toNat = c.toNat := toNat_byte (by omega)
  have hlt : c.toNat < 0x80 := by omega
  simp only [scanFrom, State.step, State.begin, hbyte, if_pos hlt, Char.ofNat_toNat,
    List.singleton_append]

/-- A character of two bytes is read back. -/
theorem scanFrom_two {c : Char} (hlow : ¬ c.toNat ≤ 0x7f) (hhigh : c.toNat ≤ 0x7ff)
    (rest : List UInt8) :
    scanFrom .start (UInt8.ofNat (c.toNat / 64 % 32 + 0xc0) :: UInt8.ofNat (c.toNat % 64 + 0x80) ::
      rest) = some c :: scanFrom .start rest := by
  have h₀ : (UInt8.ofNat (c.toNat / 64 % 32 + 0xc0)).toNat = c.toNat / 64 + 0xc0 := by
    rw [toNat_byte (by omega)]
    omega
  have h₁ : (UInt8.ofNat (c.toNat % 64 + 0x80)).toNat = c.toNat % 64 + 0x80 := toNat_byte (by omega)
  have hlead : State.lead? (c.toNat / 64 + 0xc0) = some (.inside 0 0x80 0xBF (c.toNat / 64)) := by
    rw [State.lead?, if_pos ⟨by omega, by omega⟩, Nat.add_sub_cancel]
  rw [scanFrom_start_cons (by omega) (h₀ ▸ hlead), scanFrom_inside_zero (by omega) (by omega), h₁]
  have hvalue : c.toNat / 64 * 64 + (c.toNat % 64 + 0x80 - 0x80) = c.toNat := by omega
  rw [hvalue, Char.ofNat_toNat]

/-- The first byte of three announces an interval for the second that leaves out what fits into two
bytes and the surrogates. -/
theorem exists_lead_three {v : Nat} (hlow : 0x7ff < v) (hhigh : v ≤ 0xffff)
    (hscalar : v < 0xd800 ∨ 0xdfff < v) :
    ∃ low high, State.lead? (v / 4096 + 0xe0) = some (.inside 1 low high (v / 4096)) ∧
      low ≤ v / 64 % 64 + 0x80 ∧ v / 64 % 64 + 0x80 ≤ high := by
  unfold State.lead?
  rw [if_neg (by omega)]
  by_cases hzero : v / 4096 = 0
  · exact ⟨0xA0, 0xBF, by rw [if_pos (by omega), hzero], by omega, by omega⟩
  rw [if_neg (by omega)]
  by_cases hsurrogate : v / 4096 = 13
  · exact ⟨0x80, 0x9F, by rw [if_pos (by omega), hsurrogate], by omega, by omega⟩
  rw [if_neg (by omega)]
  exact ⟨0x80, 0xBF, by rw [if_pos ⟨by omega, by omega⟩, Nat.add_sub_cancel], by omega, by omega⟩

/-- A character of three bytes is read back. -/
theorem scanFrom_three {c : Char} (hlow : ¬ c.toNat ≤ 0x7ff) (hhigh : c.toNat ≤ 0xffff)
    (rest : List UInt8) :
    scanFrom .start (UInt8.ofNat (c.toNat / 4096 % 16 + 0xe0) ::
      UInt8.ofNat (c.toNat / 64 % 64 + 0x80) :: UInt8.ofNat (c.toNat % 64 + 0x80) :: rest) =
      some c :: scanFrom .start rest := by
  have h₀ : (UInt8.ofNat (c.toNat / 4096 % 16 + 0xe0)).toNat = c.toNat / 4096 + 0xe0 := by
    rw [toNat_byte (by omega)]
    omega
  have h₁ : (UInt8.ofNat (c.toNat / 64 % 64 + 0x80)).toNat = c.toNat / 64 % 64 + 0x80 :=
    toNat_byte (by omega)
  have h₂ : (UInt8.ofNat (c.toNat % 64 + 0x80)).toNat = c.toNat % 64 + 0x80 := toNat_byte (by omega)
  have hscalar : c.toNat < 0xd800 ∨ 0xdfff < c.toNat := by
    rcases c.valid with h | h
    · exact .inl h
    · exact .inr h.1
  obtain ⟨low, high, hlead, hbelow, habove⟩ := exists_lead_three (by omega) hhigh hscalar
  rw [scanFrom_start_cons (by omega) (h₀ ▸ hlead), scanFrom_inside_succ (by omega) (by omega), h₁,
    scanFrom_inside_zero (by omega) (by omega), h₂]
  have hvalue : (c.toNat / 4096 * 64 + (c.toNat / 64 % 64 + 0x80 - 0x80)) * 64 +
      (c.toNat % 64 + 0x80 - 0x80) = c.toNat := by omega
  rw [hvalue, Char.ofNat_toNat]

/-- The first byte of four announces an interval for the second that leaves out what fits into
three bytes and what is no code point. -/
theorem exists_lead_four {v : Nat} (hlow : 0xffff < v) (hhigh : v < 0x110000) :
    ∃ low high, State.lead? (v / 262144 + 0xf0) = some (.inside 2 low high (v / 262144)) ∧
      low ≤ v / 4096 % 64 + 0x80 ∧ v / 4096 % 64 + 0x80 ≤ high := by
  unfold State.lead?
  rw [if_neg (by omega), if_neg (by omega), if_neg (by omega), if_neg (by omega)]
  by_cases hzero : v / 262144 = 0
  · exact ⟨0x90, 0xBF, by rw [if_pos (by omega), hzero], by omega, by omega⟩
  rw [if_neg (by omega)]
  by_cases hlast : v / 262144 = 4
  · exact ⟨0x80, 0x8F, by rw [if_neg (by omega), if_pos (by omega), hlast], by omega, by omega⟩
  exact ⟨0x80, 0xBF, by rw [if_pos ⟨by omega, by omega⟩, Nat.add_sub_cancel], by omega, by omega⟩

/-- A character of four bytes is read back. -/
theorem scanFrom_four {c : Char} (hlow : ¬ c.toNat ≤ 0xffff) (rest : List UInt8) :
    scanFrom .start (UInt8.ofNat (c.toNat / 262144 % 8 + 0xf0) ::
      UInt8.ofNat (c.toNat / 4096 % 64 + 0x80) :: UInt8.ofNat (c.toNat / 64 % 64 + 0x80) ::
      UInt8.ofNat (c.toNat % 64 + 0x80) :: rest) = some c :: scanFrom .start rest := by
  have hhigh : c.toNat < 0x110000 := by
    rcases c.valid with h | h
    · exact Nat.lt_trans h (by decide)
    · exact h.2
  have h₀ : (UInt8.ofNat (c.toNat / 262144 % 8 + 0xf0)).toNat = c.toNat / 262144 + 0xf0 := by
    rw [toNat_byte (by omega)]
    omega
  have h₁ : (UInt8.ofNat (c.toNat / 4096 % 64 + 0x80)).toNat = c.toNat / 4096 % 64 + 0x80 :=
    toNat_byte (by omega)
  have h₂ : (UInt8.ofNat (c.toNat / 64 % 64 + 0x80)).toNat = c.toNat / 64 % 64 + 0x80 :=
    toNat_byte (by omega)
  have h₃ : (UInt8.ofNat (c.toNat % 64 + 0x80)).toNat = c.toNat % 64 + 0x80 := toNat_byte (by omega)
  obtain ⟨low, high, hlead, hbelow, habove⟩ := exists_lead_four (by omega) hhigh
  rw [scanFrom_start_cons (by omega) (h₀ ▸ hlead), scanFrom_inside_succ (by omega) (by omega), h₁,
    scanFrom_inside_succ (by omega) (by omega), h₂, scanFrom_inside_zero (by omega) (by omega), h₃]
  have hvalue : ((c.toNat / 262144 * 64 + (c.toNat / 4096 % 64 + 0x80 - 0x80)) * 64 +
      (c.toNat / 64 % 64 + 0x80 - 0x80)) * 64 + (c.toNat % 64 + 0x80 - 0x80) = c.toNat := by omega
  rw [hvalue, Char.ofNat_toNat]

/-- The bytes of a character are read back as that character, whatever follows. -/
theorem scanFrom_utf8EncodeChar (c : Char) (rest : List UInt8) :
    scanFrom .start (String.utf8EncodeChar c ++ rest) = some c :: scanFrom .start rest := by
  have hval : c.val.toNat = c.toNat := rfl
  simp only [String.utf8EncodeChar, hval]
  split
  · next h => exact scanFrom_ascii h rest
  · next h =>
    split
    · next h' => exact scanFrom_two h h' rest
    · next h' =>
      split
      · next h'' => exact scanFrom_three h' h'' rest
      · next h'' => exact scanFrom_four h'' rest

/-- The bytes of a text are read as its characters, none of them malformed. -/
theorem scan_encode (text : List Char) : scan (encode text) = text.map some := by
  unfold scan
  induction text with
  | nil => rfl
  | cons c text ih =>
    have hcons : encode (c :: text) = String.utf8EncodeChar c ++ encode text := by simp [encode]
    rw [hcons, scanFrom_utf8EncodeChar, ih, List.map_cons]

/-- Nothing of a text is lost in its bytes. -/
@[simp] theorem decodeLossy_encode (text : List Char) : decodeLossy (encode text) = text := by
  rw [decodeLossy, scan_encode, List.map_map]
  exact List.map_id text

end CallScript.Text.Utf8
