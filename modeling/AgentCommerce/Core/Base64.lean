import Mathlib.Data.List.Basic

/-!
# Base64 for URLs

The text of bytes in base64 with the alphabet for URLs and without padding, as
`toString('base64url')` writes it.

## Main definitions

* `base64UrlDigit`, `base64Url`: a digit, and the text of bytes.

## Main results

* `base64Url_injective`: no two lists of bytes have one text.
-/

namespace AgentCommerce

/-! ## The alphabet -/

/-- A digit of the alphabet for URLs. -/
def base64UrlDigit (n : ℕ) : Char :=
  if n < 26 then Char.ofNat (65 + n)
  else if n < 52 then Char.ofNat (97 + (n - 26))
  else if n < 62 then Char.ofNat (48 + (n - 52))
  else if n = 62 then '-'
  else '_'

/-- The value of a digit. -/
def base64UrlValue (c : Char) : ℕ :=
  if 'A' ≤ c ∧ c ≤ 'Z' then c.toNat - 65
  else if 'a' ≤ c ∧ c ≤ 'z' then c.toNat - 97 + 26
  else if '0' ≤ c ∧ c ≤ '9' then c.toNat - 48 + 52
  else if c = '-' then 62
  else 63

/-- Every digit has its value. -/
theorem value_base64UrlDigit {n : ℕ} (h : n < 64) : base64UrlValue (base64UrlDigit n) = n := by
  have hall : ∀ m : Fin 64, base64UrlValue (base64UrlDigit m) = m := by decide +kernel
  exact hall ⟨n, h⟩

/-- Digits with one character are one digit. -/
theorem base64UrlDigit_inj {m n : ℕ} (hm : m < 64) (hn : n < 64) :
    base64UrlDigit m = base64UrlDigit n ↔ m = n := by
  refine ⟨fun h => ?_, fun h => by rw [h]⟩
  rw [← value_base64UrlDigit hm, h, value_base64UrlDigit hn]

/-! ## The text of bytes -/

/-- `Buffer.toString('base64url')`: three bytes are four digits, and the last one or two bytes are
two or three. -/
def base64Url : List UInt8 → List Char
  | a :: b :: c :: rest =>
    base64UrlDigit (a.toNat / 4) :: base64UrlDigit (a.toNat % 4 * 16 + b.toNat / 16) ::
      base64UrlDigit (b.toNat % 16 * 4 + c.toNat / 64) :: base64UrlDigit (c.toNat % 64) ::
      base64Url rest
  | [a, b] =>
    [base64UrlDigit (a.toNat / 4), base64UrlDigit (a.toNat % 4 * 16 + b.toNat / 16),
      base64UrlDigit (b.toNat % 16 * 4)]
  | [a] => [base64UrlDigit (a.toNat / 4), base64UrlDigit (a.toNat % 4 * 16)]
  | [] => []

example : base64Url [102, 111, 111, 98, 97, 255] = "Zm9vYmH_".toList := by decide +kernel

/-- Only no bytes have the empty text. -/
theorem base64Url_eq_nil {bytes : List UInt8} : base64Url bytes = [] ↔ bytes = [] := by
  rcases bytes with _ | ⟨a, _ | ⟨b, _ | ⟨c, rest⟩⟩⟩ <;> simp [base64Url]

/-- The digits that two bytes share. -/
theorem byte_pair_inj {a b a' b' : UInt8}
    (hfirst : base64UrlDigit (a.toNat / 4) = base64UrlDigit (a'.toNat / 4))
    (hshared : base64UrlDigit (a.toNat % 4 * 16 + b.toNat / 16) =
      base64UrlDigit (a'.toNat % 4 * 16 + b'.toNat / 16)) :
    a = a' ∧ b.toNat / 16 = b'.toNat / 16 := by
  have ha := a.toNat_lt
  have ha' := a'.toNat_lt
  have hb := b.toNat_lt
  have hb' := b'.toNat_lt
  rw [base64UrlDigit_inj (by omega) (by omega)] at hfirst hshared
  exact ⟨UInt8.toNat_inj.mp (by omega), by omega⟩

/-- **No two lists of bytes have one text.** -/
theorem base64Url_injective : Function.Injective base64Url := by
  intro bytes
  induction bytes using base64Url.induct with
  | case1 a b c rest ih =>
    intro bytes' h
    rcases bytes' with _ | ⟨a', _ | ⟨b', _ | ⟨c', rest'⟩⟩⟩
    case cons.cons.cons =>
      simp only [base64Url, List.cons.injEq] at h
      obtain ⟨hfirst, hsecond, hthird, hlast, hrest⟩ := h
      obtain ⟨rfl, hb⟩ := byte_pair_inj hfirst hsecond
      have hc := c.toNat_lt
      have hc' := c'.toNat_lt
      rw [base64UrlDigit_inj (by omega) (by omega)] at hthird hlast
      obtain rfl : b = b' := UInt8.toNat_inj.mp (by omega)
      obtain rfl : c = c' := UInt8.toNat_inj.mp (by omega)
      rw [ih hrest]
    all_goals simp [base64Url] at h
  | case2 a b =>
    intro bytes' h
    rcases bytes' with _ | ⟨a', _ | ⟨b', _ | ⟨c', rest'⟩⟩⟩
    case cons.cons.nil =>
      simp only [base64Url, List.cons.injEq, and_true] at h
      obtain ⟨hfirst, hsecond, hthird⟩ := h
      obtain ⟨rfl, hb⟩ := byte_pair_inj hfirst hsecond
      rw [base64UrlDigit_inj (by omega) (by omega)] at hthird
      obtain rfl : b = b' := UInt8.toNat_inj.mp (by omega)
      rfl
    all_goals simp [base64Url] at h
  | case3 a =>
    intro bytes' h
    rcases bytes' with _ | ⟨a', _ | ⟨b', _ | ⟨c', rest'⟩⟩⟩
    case cons.nil =>
      simp only [base64Url, List.cons.injEq, and_true] at h
      obtain ⟨hfirst, hsecond⟩ := h
      have ha := a.toNat_lt
      have ha' := a'.toNat_lt
      rw [base64UrlDigit_inj (by omega) (by omega)] at hfirst hsecond
      obtain rfl : a = a' := UInt8.toNat_inj.mp (by omega)
      rfl
    all_goals simp [base64Url] at h
  | case4 =>
    intro bytes' h
    exact (base64Url_eq_nil.mp h.symm).symm

end AgentCommerce
