import SqlShell.Text.Utf8

/-! Reading the bytes of a text gives the text back: every character is read from just the bytes that
it is written as, whatever follows them.
-/

namespace SqlShell.Utf8

-----------------------------------------------------------------------------------------
-- Characters of each length
-----------------------------------------------------------------------------------------

theorem isContinuation_iff (byte : UInt8)
    : isContinuation byte = true ↔ 0x80 ≤ byte.toNat ∧ byte.toNat < 0xC0 := by
  simp [isContinuation]

/-- What a second byte has to be beside a continuation, by the four first bytes that bound it. -/
theorem isSecond_of_bounds {first second : UInt8}
    (h : 0x80 ≤ second.toNat ∧ second.toNat < 0xC0)
    (hthree : first.toNat = 0xE0 → 0xA0 ≤ second.toNat)
    (hsurrogate : first.toNat = 0xED → second.toNat < 0xA0)
    (hfour : first.toNat = 0xF0 → 0x90 ≤ second.toNat)
    (hlast : first.toNat = 0xF4 → second.toNat < 0x90)
    : isSecond first second = true := by
  simp only [isSecond, isContinuation, Bool.and_eq_true, decide_eq_true_eq, Bool.not_eq_true',
    Bool.and_eq_false_iff, beq_eq_false_iff_ne, decide_eq_false_iff_not, UInt8.le_iff_toNat_le,
    UInt8.lt_iff_toNat_lt, ne_eq, UInt8.reduceToNat, ← UInt8.toNat_inj]
  omega

variable {first second third fourth : UInt8}

theorem step_one (h : first.toNat < 0x80) (rest : List UInt8)
    : step first rest = .char (Char.ofNat first.toNat) 0 :=
  if_pos h

theorem step_two (hl : 0xC2 ≤ first.toNat) (hu : first.toNat < 0xE0)
    (hs : 0x80 ≤ second.toNat ∧ second.toNat < 0xC0) (rest : List UInt8)
    : step first (second :: rest) =
        .char (Char.ofNat (first.toNat % 32 * 64 + payload second)) 1 := by
  have hsecond : isSecond first second = true := by
    apply isSecond_of_bounds hs <;> omega
  have hlead : ¬ (first.toNat < 0xC2 || 0xF5 ≤ first.toNat) = true := by simp; omega
  rw [step.eq_def]
  dsimp only
  rw [if_neg (by omega), if_neg hlead, hsecond, if_neg (by simp), if_pos hu]

theorem step_three (hl : 0xE0 ≤ first.toNat) (hu : first.toNat < 0xF0)
    (hs : isSecond first second = true) (ht : 0x80 ≤ third.toNat ∧ third.toNat < 0xC0)
    (rest : List UInt8)
    : step first (second :: third :: rest) =
        .char (Char.ofNat ((first.toNat % 16 * 64 + payload second) * 64 + payload third)) 2 := by
  have hlead : ¬ (first.toNat < 0xC2 || 0xF5 ≤ first.toNat) = true := by simp; omega
  rw [step.eq_def]
  dsimp only
  rw [if_neg (by omega), if_neg hlead, hs, if_neg (by simp), if_neg (by omega),
    (isContinuation_iff third).mpr ht, if_neg (by simp), if_pos hu]

theorem step_four (hl : 0xF0 ≤ first.toNat) (hu : first.toNat < 0xF5)
    (hs : isSecond first second = true) (ht : 0x80 ≤ third.toNat ∧ third.toNat < 0xC0)
    (hf : 0x80 ≤ fourth.toNat ∧ fourth.toNat < 0xC0) (rest : List UInt8)
    : step first (second :: third :: fourth :: rest) =
        .char (Char.ofNat (((first.toNat % 8 * 64 + payload second) * 64 + payload third) * 64
          + payload fourth)) 3 := by
  have hlead : ¬ (first.toNat < 0xC2 || 0xF5 ≤ first.toNat) = true := by simp; omega
  rw [step.eq_def]
  dsimp only
  rw [if_neg (by omega), if_neg hlead, hs, if_neg (by simp), if_neg (by omega),
    (isContinuation_iff third).mpr ht, if_neg (by simp), if_neg (by omega),
    (isContinuation_iff fourth).mpr hf, if_neg (by simp)]

-----------------------------------------------------------------------------------------
-- Texts
-----------------------------------------------------------------------------------------

/-- A character is read from the bytes that it is written as, by the four lengths of these. -/
theorem exists_step_utf8EncodeChar (c : Char)
    : ∃ first more, String.utf8EncodeChar c = first :: more
        ∧ ∀ rest, step first (more ++ rest) = .char c more.length := by
  have hc : Char.ofNat c.val.toNat = c := Char.ofNat_toNat c
  have hvalid : c.val.toNat < 0xD800 ∨ 0xDFFF < c.val.toNat ∧ c.val.toNat < 0x110000 := c.valid
  have hbyte (k : Nat) (hk : k < 256) : (UInt8.ofNat k).toNat = k := UInt8.toNat_ofNat_of_lt' hk
  rw [String.utf8EncodeChar]
  generalize c.val.toNat = n at hvalid hc
  split
  · have hn := hbyte n (by omega)
    refine ⟨_, _, rfl, fun rest => ?_⟩
    rw [List.nil_append, step_one (by omega), hn, hc]
    rfl
  · have hlast := hbyte (n % 64 + 128) (by omega)
    split
    · have hfirst := hbyte (n / 64 % 32 + 192) (by omega)
      refine ⟨_, _, rfl, fun rest => ?_⟩
      rw [List.cons_append, step_two (by omega) (by omega) (by omega), payload, hfirst, hlast]
      refine congrArg (Step.char · 1) (hc ▸ congrArg Char.ofNat ?_)
      omega
    · have hmiddle := hbyte (n / 64 % 64 + 128) (by omega)
      split
      · have hfirst := hbyte (n / 4096 % 16 + 224) (by omega)
        have hsecond : isSecond (UInt8.ofNat (n / 4096 % 16 + 224))
            (UInt8.ofNat (n / 64 % 64 + 128)) = true := by
          apply isSecond_of_bounds <;> omega
        refine ⟨_, _, rfl, fun rest => ?_⟩
        rw [List.cons_append, List.cons_append,
          step_three (by omega) (by omega) hsecond (by omega), payload, payload, hfirst, hmiddle,
          hlast]
        refine congrArg (Step.char · 2) (hc ▸ congrArg Char.ofNat ?_)
        omega
      · have hfirst := hbyte (n / 262144 % 8 + 240) (by omega)
        have hnext := hbyte (n / 4096 % 64 + 128) (by omega)
        have hsecond : isSecond (UInt8.ofNat (n / 262144 % 8 + 240))
            (UInt8.ofNat (n / 4096 % 64 + 128)) = true := by
          apply isSecond_of_bounds <;> omega
        refine ⟨_, _, rfl, fun rest => ?_⟩
        rw [List.cons_append, List.cons_append, List.cons_append,
          step_four (by omega) (by omega) hsecond (by omega) (by omega), payload, payload, payload,
          hfirst, hnext, hmiddle, hlast]
        refine congrArg (Step.char · 3) (hc ▸ congrArg Char.ofNat ?_)
        omega

/-- The bytes of a text are read as the text, by induction on it. -/
theorem decodeLossy_encode (text : List Char) : decodeLossy (encode text) = text := by
  induction text with
  | nil => rw [encode, List.flatMap_nil, decodeLossy]
  | cons c rest ih =>
      obtain ⟨first, more, he, hs⟩ := exists_step_utf8EncodeChar c
      rw [encode, List.flatMap_cons, ← encode, he, List.cons_append, decodeLossy, hs]
      dsimp only
      rw [List.drop_left, ih]

end SqlShell.Utf8
