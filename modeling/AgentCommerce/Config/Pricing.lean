import AgentCommerce.Backend.Reference
import AgentCommerce.Config.Resources

/-!
# Accepted prices

A price is checked as a text and charged as an exact number of base units. The loader refuses the
text `0` and `0.0…` only; a price of several zeros passes, and is charged as nothing.

## Main definitions

* `validatedDecimals`: the decimals of the assets that a price is checked against;
* `HasValue`: the prices with a digit other than zero.

## Main results

* `parseCanonicalAmount_of_accepted`: which accepted prices are more than zero base units.
-/

namespace AgentCommerce

/-! ## Digits -/

/-- A digit other than zero. -/
def isNonzeroDigit (c : Char) : Bool := isDigitChar c && c ≠ '0'

/-- The price has a digit other than zero. -/
def HasValue (amount : String) : Prop := ∃ c ∈ amount.toList, isNonzeroDigit c = true

/-- Digits are read as more than zero when one of them is. -/
theorem foldl_digits_pos (digits : List Char) (hdigits : ∀ c ∈ digits, isDigitChar c = true)
    (n : ℕ) :
    0 < digits.foldl (fun n c => 10 * n + (c.toNat - '0'.toNat)) n ↔
      0 < n ∨ ∃ c ∈ digits, isNonzeroDigit c = true := by
  induction digits generalizing n with
  | nil => simp
  | cons c digits ih =>
    rw [List.foldl_cons, ih (fun d hd => hdigits d (List.mem_cons_of_mem c hd))]
    have hdigit := hdigits c List.mem_cons_self
    have hvalue : 0 < c.toNat - '0'.toNat ↔ isNonzeroDigit c = true := by
      rw [isNonzeroDigit, hdigit, Bool.true_and, decide_eq_true_eq]
      rw [isDigitChar, Bool.and_eq_true, decide_eq_true_eq, decide_eq_true_eq] at hdigit
      have hlow : '0'.toNat ≤ c.toNat := hdigit.1
      constructor
      · rintro hpos rfl
        exact absurd hpos (by decide)
      · intro hne
        have hnumber : c.toNat ≠ '0'.toNat := fun h => hne (Char.toNat_inj.mp h)
        omega
    constructor
    · rintro (hpos | ⟨d, hd, hnonzero⟩)
      · rcases Nat.eq_zero_or_pos n with rfl | hn
        · exact .inr ⟨c, List.mem_cons_self, hvalue.mp (by omega)⟩
        · exact .inl hn
      · exact .inr ⟨d, List.mem_cons_of_mem c hd, hnonzero⟩
    · rintro (hn | ⟨d, hd, hnonzero⟩)
      · exact .inl (by omega)
      · rcases List.mem_cons.mp hd with rfl | hd
        · have hpos := hvalue.mpr hnonzero
          exact .inl (by omega)
        · exact .inr ⟨d, hd, hnonzero⟩

/-! ## The price check -/

/-- What the price check leaves of a text. -/
theorem validatePricingAmount_ok {id amount : String} {decimals : Option ℕ}
    (h : validatePricingAmount id amount decimals = .ok ()) :
    X402.isDecimal (amount.toList.takeWhile (· ≠ '.')) (amount.toList.dropWhile (· ≠ '.')) = true ∧
      ∀ limit, decimals = some limit →
        (amount.toList.dropWhile (· ≠ '.')).tail.length ≤ limit := by
  unfold validatePricingAmount at h
  dsimp only at h
  split_ifs at h with hdecimal _ hprecision
  refine ⟨by simpa using hdecimal, ?_⟩
  rintro limit rfl
  simpa using hprecision

/-- The base units of a decimal text with no more digits than the asset has. -/
theorem parseCanonicalAmount_eq {amount : String} {decimals : ℕ}
    (hdecimal : X402.isDecimal (amount.toList.takeWhile (· ≠ '.'))
      (amount.toList.dropWhile (· ≠ '.')) = true)
    (hprecision : (amount.toList.dropWhile (· ≠ '.')).tail.length ≤ decimals) :
    ∃ units, X402.parseCanonicalAmount amount decimals = .ok units ∧
      (0 < units ↔ HasValue amount) := by
  have hparts := List.takeWhile_append_dropWhile (p := (· ≠ '.')) (l := amount.toList)
  set integerPart := amount.toList.takeWhile (· ≠ '.') with hinteger
  set rest := amount.toList.dropWhile (· ≠ '.') with hrest
  have hdigits : (∀ c ∈ integerPart, isDigitChar c = true) ∧ ∀ c ∈ rest.tail, isDigitChar c = true := by
    rw [X402.isDecimal, Bool.and_eq_true, Bool.and_eq_true, Bool.or_eq_true] at hdecimal
    refine ⟨List.all_eq_true.mp hdecimal.1.2, ?_⟩
    rcases hdecimal.2 with hempty | hfraction
    · rw [List.isEmpty_iff.mp hempty]
      exact fun c hc => absurd hc List.not_mem_nil
    · rw [Bool.and_eq_true] at hfraction
      exact List.all_eq_true.mp hfraction.2
  refine ⟨bigInt (String.ofList (integerPart ++ rest.tail ++
    List.replicate (decimals - rest.tail.length) '0')), ?_, ?_⟩
  · unfold X402.parseCanonicalAmount
    dsimp only
    rw [← hinteger, ← hrest, hdecimal, if_neg (by simp), if_neg (by omega)]
  · rw [bigInt, String.toList_ofList, foldl_digits_pos]
    · -- The point and the zeros behind the text are no digits of a value.
      have hpoint : ∀ c ∈ rest, c ∈ rest.tail ∨ c = '.' := by
        intro c hc
        cases hcases : rest with
        | nil =>
          rw [hcases] at hc
          cases hc
        | cons first tail =>
          have hfirst : first = '.' := by
            have hnot := List.head?_dropWhile_not (fun c => decide (c ≠ '.')) amount.toList
            rw [← hrest, hcases] at hnot
            simpa using hnot
          rw [hcases] at hc
          rcases List.mem_cons.mp hc with rfl | hc
          · exact .inr hfirst
          · exact .inl hc
      rw [HasValue, ← hparts]
      constructor
      · rintro (hzero | ⟨c, hc, hnonzero⟩)
        · exact absurd hzero (lt_irrefl 0)
        · rcases List.mem_append.mp hc with hc | hc
          · rcases List.mem_append.mp hc with hc | hc
            · exact ⟨c, List.mem_append_left _ hc, hnonzero⟩
            · exact ⟨c, List.mem_append_right _ (List.mem_of_mem_tail hc), hnonzero⟩
          · rw [List.eq_of_mem_replicate hc] at hnonzero
            exact absurd hnonzero (by decide)
      · rintro ⟨c, hc, hnonzero⟩
        refine .inr ⟨c, List.mem_append_left _ ?_, hnonzero⟩
        rcases List.mem_append.mp hc with hc | hc
        · exact List.mem_append_left _ hc
        · rcases hpoint c hc with hc | rfl
          · exact List.mem_append_right _ hc
          · exact absurd hnonzero (by decide)
    · intro c hc
      rcases List.mem_append.mp hc with hc | hc
      · rcases List.mem_append.mp hc with hc | hc
        · exact hdigits.1 c hc
        · exact hdigits.2 c hc
      · rw [List.eq_of_mem_replicate hc]
        decide

/-! ## Accepted prices -/

/-- The decimals of the assets that a fixed price is checked against: those of the x402 offers, and
that of the MPP profile. -/
def validatedDecimals (sections : ConfigSections) (id : String) (entry : RawResourceEntry) :
    List ℕ :=
  x402Decimals sections id entry ++
    if sections.mpp.getD false && entry.methods.contains "mpp" then [mppAssetDecimals] else []

/-- An accepted price is converted to base units for every asset it was checked against, and is more
than zero of them if and only if it has a digit other than zero. -/
theorem parseCanonicalAmount_of_accepted {platform : WebPlatform} {sections : ConfigSections}
    {id : String} {entry : RawResourceEntry} {resource : LoadedResource} {amount currency : String}
    {decimals : ℕ} (haccepted : normalizeResource platform sections id entry = .ok resource)
    (hpricing : entry.pricing = .fixed amount currency)
    (hdecimals : decimals ∈ validatedDecimals sections id entry) :
    (∃ units, X402.parseCanonicalAmount amount decimals = .ok units ∧ 0 < units) ↔
      HasValue amount := by
  have hchecks := (normalizeResource_ok haccepted).pricing
  rw [checkPricing, hpricing] at hchecks
  obtain ⟨_, -, hchecks⟩ := bind_eq_ok.mp hchecks
  obtain ⟨_, hamount, hchecks⟩ := bind_eq_ok.mp hchecks
  obtain ⟨_, -, hchecks⟩ := bind_eq_ok.mp hchecks
  obtain ⟨_, -, hmpp⟩ := bind_eq_ok.mp hchecks
  obtain ⟨hdecimal, hbound⟩ := validatePricingAmount_ok hamount
  have hprecision : (amount.toList.dropWhile (· ≠ '.')).tail.length ≤ decimals := by
    rcases List.mem_append.mp hdecimals with hx402 | hprofile
    · -- The coarsest of the offers bounds the digits, so every offer does.
      obtain ⟨coarsest, hmin⟩ : ∃ coarsest, (x402Decimals sections id entry).min? = some coarsest :=
        Option.isSome_iff_exists.mp (List.isSome_min?_of_mem hx402)
      exact (hbound coarsest hmin).trans ((List.min?_eq_some_iff.mp hmin).2 decimals hx402)
    · split_ifs at hprofile with hcharged
      · obtain rfl := List.mem_singleton.mp hprofile
        rw [checkMpp, if_pos hcharged] at hmpp
        split_ifs at hmpp
        exact (validatePricingAmount_ok hmpp).2 _ rfl
      · cases hprofile
  obtain ⟨units, hunits, hpos⟩ := parseCanonicalAmount_eq hdecimal hprecision
  constructor
  · rintro ⟨units', hunits', hpos'⟩
    obtain rfl := Except.ok.inj (hunits.symm.trans hunits')
    exact hpos.mp hpos'
  · exact fun hvalue => ⟨units, hunits, hpos.mpr hvalue⟩

/-! ## Samples -/

/-- A configuration with the x402 rail, whose one offer is in an asset of six decimals. -/
def sampleSections : ConfigSections where
  httpEnabled := true
  mcpEnabled := false
  a2aEnabled := false
  acpEnabled := false
  x402 := some ⟨true, ⟨[6], ["USDC"]⟩, []⟩
  mpp := none
  ap2 := none

/-- An entry with a backend block and a price. -/
def sampleEntry (backend : RawBackend) (input : Option JsonMembers) (pricing : Pricing) :
    RawResourceEntry where
  name := "Items"
  description := none
  input := input
  output := none
  mimeType := none
  backend := backend
  pricing := pricing
  expose := ["http"]
  payments := some ["x402"]
  paymentFlow := none
  x402 := false
  authorization := none

/-- A backend block without parameters. -/
def sampleBackend : RawBackend where
  method := .get
  url := "https://api.example/items"
  headers := none
  timeoutMs := none
  inputBindings := none

/-- The resource of a sample entry, as it is loaded. -/
def loadedSample (backend : RawBackend) (inputSchema : JsonMembers) (timeoutMs : Option ℤ)
    (pricing : Pricing) : LoadedResource where
  id := "items"
  name := "Items"
  description := none
  inputSchema := inputSchema
  outputSchema := none
  handler :=
    { method := backend.method
      url := backend.url
      headers := backend.headers
      timeoutMs := timeoutMs
      inputBindings := backend.inputBindings }
  pricing := pricing
  exposedVia := ["http"]
  paymentMethods := ["x402"]
  authorization := none

/-- The price of a cent is more than zero base units. -/
theorem parseCanonicalAmount_of_cent :
    ∃ units, X402.parseCanonicalAmount "0.01" 6 = .ok units ∧ 0 < units := by
  have haccepted : normalizeResource referenceWeb sampleSections "items"
      (sampleEntry sampleBackend none (.fixed "0.01" "USD")) =
      .ok (loadedSample sampleBackend emptyClosedObjectSchema none (.fixed "0.01" "USD")) := by rfl
  exact (parseCanonicalAmount_of_accepted haccepted rfl (by decide)).mpr ⟨'1', by decide, by decide⟩

/-- The price `00` is accepted, and charged as nothing. -/
theorem parseCanonicalAmount_of_zeros :
    normalizeResource referenceWeb sampleSections "items"
        (sampleEntry sampleBackend none (.fixed "00" "USD")) =
      .ok (loadedSample sampleBackend emptyClosedObjectSchema none (.fixed "00" "USD")) ∧
    6 ∈ validatedDecimals sampleSections "items"
        (sampleEntry sampleBackend none (.fixed "00" "USD")) ∧
    X402.parseCanonicalAmount "00" 6 = .ok 0 ∧
    ¬ ∃ units, X402.parseCanonicalAmount "00" 6 = .ok units ∧ 0 < units := by
  have hzero : X402.parseCanonicalAmount "00" 6 = .ok 0 := by rfl
  refine ⟨by rfl, by decide, hzero, ?_⟩
  rintro ⟨units, hunits, hpos⟩
  obtain rfl := Except.ok.inj (hzero.symm.trans hunits)
  exact absurd hpos (lt_irrefl 0)

end AgentCommerce
