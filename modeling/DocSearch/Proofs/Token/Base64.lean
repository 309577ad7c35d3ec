import Mathlib
import DocSearch.Proofs.Text.Blank
import DocSearch.Token.Base64
/-!
# Base64 read back

* `IsDigit`: the characters that bytes are written in. None of them is blank or has a meaning of its
  own in an address.
* **`decode?_encode`**: bytes are read back from their characters.
* **`encode_of_decode?`**: nothing but the spelling of some bytes is read.
-/

namespace DocSearch.Base64

/-- The letters without accents, the decimal digits, `-` and `_`. -/
def IsDigit (c : Char) : Prop :=
  ('A' ≤ c ∧ c ≤ 'Z') ∨ ('a' ≤ c ∧ c ≤ 'z') ∨ ('0' ≤ c ∧ c ≤ '9') ∨ c = '-' ∨ c = '_'

instance : DecidablePred IsDigit := fun _ => inferInstanceAs (Decidable (_ ∨ _))

theorem value?_digit : ∀ n < 64, value? (digit n) = some n := by decide

theorem isDigit_digit : ∀ n < 64, IsDigit (digit n) := by decide

theorem IsDigit.toNat {c : Char} (h : IsDigit c) :
    (65 ≤ c.toNat ∧ c.toNat ≤ 90) ∨ (97 ≤ c.toNat ∧ c.toNat ≤ 122) ∨
      (48 ≤ c.toNat ∧ c.toNat ≤ 57) ∨ c.toNat = 45 ∨ c.toNat = 95 := by
  rcases h with h | h | h | rfl | rfl
  · exact .inl h
  · exact .inr (.inl h)
  · exact .inr (.inr (.inl h))
  · decide
  · decide

theorem IsDigit.isBlank {c : Char} (h : IsDigit c) : Text.isBlank c = false := by
  have h' := h.toNat
  exact Text.isBlank_eq_false (by omega) (by omega)

theorem isDigit_of_mem_encode {bs : List UInt8} : ∀ c ∈ encode bs, IsDigit c := by
  fun_induction encode bs with
  | case1 => simp
  | case2 a =>
    have := a.toNat_lt
    simp only [List.forall_mem_cons]
    refine ⟨isDigit_digit _ ?_, isDigit_digit _ ?_, by simp⟩ <;> omega
  | case3 a b =>
    have := a.toNat_lt
    have := b.toNat_lt
    simp only [List.forall_mem_cons]
    refine ⟨isDigit_digit _ ?_, isDigit_digit _ ?_, isDigit_digit _ ?_, by simp⟩ <;> omega
  | case4 a b c rest _ ih =>
    have := a.toNat_lt
    have := b.toNat_lt
    have := c.toNat_lt
    simp only [List.forall_mem_cons]
    refine ⟨isDigit_digit _ ?_, isDigit_digit _ ?_, isDigit_digit _ ?_, isDigit_digit _ ?_, ih⟩ <;>
      omega

/-- **Bytes are read back from their characters.** -/
theorem decode?_encode (bs : List UInt8) : decode? (encode bs) = some bs := by
  fun_induction encode bs with
  | case1 => rfl
  | case2 a n =>
    have ha := a.toNat_lt
    -- The low bits of the last digit belong to no byte and are zero.
    have h₁ := value?_digit (n / 64) (by omega)
    have h₂ := value?_digit (n % 64) (by omega)
    have hn : n / 64 * 64 + n % 64 = n := by omega
    have hz : n % 16 = 0 := by omega
    have e : n / 16 = a.toNat := by omega
    simp only [decode?, h₁, h₂, Option.bind_eq_bind, Option.bind_some, hn, if_pos hz, e,
      UInt8.ofNat_toNat]
  | case3 a b n =>
    have ha := a.toNat_lt
    have hb := b.toNat_lt
    have h₁ := value?_digit (n / 4096) (by omega)
    have h₂ := value?_digit (n / 64 % 64) (by omega)
    have h₃ := value?_digit (n % 64) (by omega)
    have hn : (n / 4096 * 64 + n / 64 % 64) * 64 + n % 64 = n := by omega
    have hz : n % 4 = 0 := by omega
    have e : n / 1024 = a.toNat := by omega
    have e' : n / 4 % 256 = b.toNat := by omega
    simp only [decode?, h₁, h₂, h₃, Option.bind_eq_bind, Option.bind_some, hn, if_pos hz, e, e',
      UInt8.ofNat_toNat]
  | case4 a b c rest n ih =>
    have ha := a.toNat_lt
    have hb := b.toNat_lt
    have hc := c.toNat_lt
    have h₁ := value?_digit (n / 262144) (by omega)
    have h₂ := value?_digit (n / 4096 % 64) (by omega)
    have h₃ := value?_digit (n / 64 % 64) (by omega)
    have h₄ := value?_digit (n % 64) (by omega)
    have hn : ((n / 262144 * 64 + n / 4096 % 64) * 64 + n / 64 % 64) * 64 + n % 64 = n := by omega
    have e₁ : n / 65536 = a.toNat := by omega
    have e₂ : n / 256 % 256 = b.toNat := by omega
    have e₃ : n % 256 = c.toNat := by omega
    simp only [decode?, h₁, h₂, h₃, h₄, ih, Option.bind_eq_bind, Option.bind_some, hn, e₁, e₂, e₃,
      UInt8.ofNat_toNat]
    rfl

theorem digit_of_value? {c : Char} {n : Nat} (h : value? c = some n) : n < 64 ∧ digit n = c := by
  have hc : Char.ofNat c.toNat = c := Char.ofNat_toNat c
  unfold value? at h
  dsimp only at h
  split_ifs at h with h₁ h₂ h₃ h₄ h₅ <;> obtain rfl := Option.some.inj h
  · refine ⟨by omega, ?_⟩
    rw [digit, if_pos (by omega), show 65 + (c.toNat - 65) = c.toNat by omega, hc]
  · refine ⟨by omega, ?_⟩
    rw [digit, if_neg (by omega), if_pos (by omega),
      show 71 + (c.toNat - 71) = c.toNat by omega, hc]
  · refine ⟨by omega, ?_⟩
    rw [digit, if_neg (by omega), if_neg (by omega), if_pos (by omega),
      show c.toNat + 4 - 4 = c.toNat by omega, hc]
  · refine ⟨by omega, ?_⟩
    rw [← hc, h₄]
    rfl
  · refine ⟨by omega, ?_⟩
    rw [← hc, h₅]
    rfl

theorem toNat_ofNat_byte {n : Nat} (h : n < 256) : (UInt8.ofNat n).toNat = n :=
  UInt8.toNat_ofNat_of_lt' h

/-- **Bytes have one spelling only.** -/
theorem encode_of_decode? {cs : List Char} {bs : List UInt8} (h : decode? cs = some bs) :
    encode bs = cs := by
  fun_induction decode? cs generalizing bs with
  | case1 =>
    obtain rfl := Option.some.inj h
    rfl
  | case2 => simp at h
  | case3 a b =>
    simp only [Option.bind_eq_bind, Option.bind_eq_some_iff] at h
    obtain ⟨x, hx, y, hy, h⟩ := h
    obtain ⟨hx, rfl⟩ := digit_of_value? hx
    obtain ⟨hy, rfl⟩ := digit_of_value? hy
    split_ifs at h with hz
    obtain rfl := Option.some.inj h
    -- The four bits that belong to no byte are zero, so nothing is lost.
    have hn : (x * 64 + y) / 16 * 16 = x * 64 + y := by omega
    have e₁ : (x * 64 + y) / 64 = x := by omega
    have e₂ : (x * 64 + y) % 64 = y := by omega
    rw [encode, toNat_ofNat_byte (by omega), hn, e₁, e₂]
  | case4 a b c =>
    simp only [Option.bind_eq_bind, Option.bind_eq_some_iff] at h
    obtain ⟨x, hx, y, hy, z, hz, h⟩ := h
    obtain ⟨hx, rfl⟩ := digit_of_value? hx
    obtain ⟨hy, rfl⟩ := digit_of_value? hy
    obtain ⟨hz, rfl⟩ := digit_of_value? hz
    split_ifs at h with h₄
    obtain rfl := Option.some.inj h
    generalize hn : (x * 64 + y) * 64 + z = n at h₄ ⊢
    have hb : (n / 1024 * 256 + n / 4 % 256) * 4 = n := by omega
    have e₁ : n / 4096 = x := by omega
    have e₂ : n / 64 % 64 = y := by omega
    have e₃ : n % 64 = z := by omega
    rw [encode, toNat_ofNat_byte (by omega), toNat_ofNat_byte (by omega), hb, e₁, e₂, e₃]
  | case5 a b c d rest ih =>
    simp only [Option.bind_eq_bind, Option.bind_eq_some_iff, Option.pure_def] at h
    obtain ⟨x, hx, y, hy, z, hz, v, hv, bytes, hb, h⟩ := h
    obtain ⟨hx, rfl⟩ := digit_of_value? hx
    obtain ⟨hy, rfl⟩ := digit_of_value? hy
    obtain ⟨hz, rfl⟩ := digit_of_value? hz
    obtain ⟨hv, rfl⟩ := digit_of_value? hv
    obtain rfl := Option.some.inj h
    generalize hn : ((x * 64 + y) * 64 + z) * 64 + v = n
    have hb' : (n / 65536 * 256 + n / 256 % 256) * 256 + n % 256 = n := by omega
    have e₁ : n / 262144 = x := by omega
    have e₂ : n / 4096 % 64 = y := by omega
    have e₃ : n / 64 % 64 = z := by omega
    have e₄ : n % 64 = v := by omega
    rw [encode, toNat_ofNat_byte (by omega), toNat_ofNat_byte (by omega),
      toNat_ofNat_byte (by omega), hb', e₁, e₂, e₃, e₄, ih hb]

theorem decode?_eq_some_iff {cs : List Char} {bs : List UInt8} :
    decode? cs = some bs ↔ cs = encode bs :=
  ⟨fun h => (encode_of_decode? h).symm, fun h => h ▸ decode?_encode bs⟩

end DocSearch.Base64
